import UploadGate.Http.Headers
import UploadGate.Permissions.Source
import UploadGate.Proofs.Text.Percent
import UploadGate.Proofs.Text.Trimmed

/-! # What a security service is asked for

The request for a user's permissions asks for a document of the user's name, in a directory below
the address of the service. Tabs and line breaks do not count in the name. A name of one or two dots
names no document: the request asks for the directory itself. A name that becomes two dots without
its tabs leads out of the directory. Two users who each have a document have the same one exactly if
their names differ in tabs alone.
-/

namespace UploadGate

namespace Http.Headers

/-- The user of a request has a trimmed name that is not empty. -/
theorem trimmed_of_remoteUser? {headers : Headers} {user : String}
    (h : headers.remoteUser? = some user) : user ≠ "" ∧ Text.trim user = user := by
  obtain ⟨hvalue, hne⟩ := Option.filter_eq_some_iff.mp h
  obtain ⟨value, -, rfl⟩ := Option.map_eq_some_iff.mp hvalue
  exact ⟨by simpa using hne, Text.trim_trim value⟩

end Http.Headers

namespace Address

variable {address : Address} {name : String} {c : Char}

/-- The characters of a name that count. -/
def plainName (name : String) : List Char := name.toList.filter fun c => !isBreak c

/-- The path of an address, empty if it has no segments. -/
def path (address : Address) : List Char := address.segments.flatMap ('/' :: ·)

def queryPart (address : Address) : List Char :=
  match address.query with
  | some query => '?' :: query
  | none => []

theorem target_eq (h : address.segments ≠ []) :
    address.target = .ofList (address.path ++ address.queryPart) := by
  have hpath : address.segments.flatMap ('/' :: ·) ≠ [] := by
    obtain ⟨segment, rest, hsegments⟩ := List.exists_cons_of_ne_nil h
    simp [hsegments]
  simp only [target, if_neg hpath]
  rfl

theorem isEscapedInPath_of_isBreak (h : isBreak c = true) : isEscapedInPath c = true := by
  simp only [isBreak, Bool.or_eq_true, decide_eq_true_eq] at h
  rcases h with (rfl | rfl) | rfl <;> decide

theorem isBlank_of_isBreak (h : isBreak c = true) : Text.isBlank c = true := by
  simp only [isBreak, Bool.or_eq_true, decide_eq_true_eq] at h
  rcases h with (rfl | rfl) | rfl <;> decide

theorem isEscapedInSegment_percent {scheme : List Char} :
    isEscapedInSegment scheme '%' = true := by
  simp [isEscapedInSegment]

/-- Something is left of a trimmed name that is not empty. -/
theorem plainName_ne_nil (hne : name ≠ "") (htrim : Text.trim name = name) :
    plainName name ≠ [] := by
  obtain ⟨c, rest, hname⟩ :=
    List.exists_cons_of_ne_nil fun hnil => hne (String.toList_eq_nil_iff.mp hnil)
  have hstrip : Text.strip Text.isBlank name.toList = name.toList := by
    rw [← Text.toList_trim, htrim]
  have hblank : Text.isBlank c = false :=
    (Text.strip_eq_self_iff.mp hstrip).1 c (by rw [hname]; rfl)
  have hcounts : isBreak c = false := by
    by_contra hbreak
    have hcontra := isBlank_of_isBreak (by simpa using hbreak)
    exact absurd (hblank.symm.trans hcontra) Bool.false_ne_true
  have hmem : c ∈ plainName name := by simp [plainName, hname, hcounts]
  exact List.ne_nil_of_mem hmem

/-- Whether a character is no dot and is never escaped in a name. -/
def isPlainChar (c : Char) : Bool :=
  !(isEscapedInPath c || ['.', '/', '%', '\\'].contains c)

/-- A name of plain characters is added as it is. -/
theorem child_of_all_isPlainChar (h : name.toList.all isPlainChar = true) :
    address.child name = { address with segments := address.segments ++ [name.toList] } := by
  have hchar := List.all_eq_true.mp h
  have hdot : '.' ∉ name.toList := fun hmem => absurd (hchar '.' hmem) (by decide)
  have hname : ¬ (name = "." ∨ name = "..") := by
    rintro (rfl | rfl)
    · exact hdot (by decide)
    · exact hdot (by decide)
  have hplain : (name.toList.filter fun c => !isBreak c) = name.toList := by
    refine List.filter_eq_self.mpr fun c hc => ?_
    by_contra hbreak
    have hescaped := isEscapedInPath_of_isBreak (by simpa using hbreak)
    exact absurd (hchar c hc) (by simp [isPlainChar, hescaped])
  have hone : name.toList ≠ ['.'] := fun heq => hdot (by simp [heq])
  have htwo : name.toList ≠ ['.', '.'] := fun heq => hdot (by simp [heq])
  have hencode : Text.Percent.encode (isEscapedInSegment address.scheme) name.toList =
      name.toList := by
    refine Text.Percent.encode_eq_self fun c hc => ?_
    obtain ⟨hescaped, hother⟩ : isEscapedInPath c = false ∧ c ∉ ['.', '/', '%', '\\'] := by
      simpa [isPlainChar] using hchar c hc
    simp only [List.mem_cons, List.not_mem_nil, or_false, not_or] at hother
    simp [isEscapedInSegment, hescaped, hother]
  simp only [child, if_neg hname, hplain, if_neg hone, if_neg htwo, hencode]

end Address

/-- What the request for the permissions of a user asks for. -/
inductive Asked
  /-- All of the directory of permissions. -/
  | directory
  /-- What the directory is in. -/
  | above
  /-- A document of the directory. -/
  | document (name : List Char)
deriving DecidableEq

namespace Asked

variable {scheme : List Char} {asked other : Asked}

/-- The segments that lead from the address of a service to what it is asked for. -/
def segments (scheme : List Char) : Asked → List (List Char)
  | directory => ["internal".toList, "permissions".toList]
  | above => ["internal".toList, []]
  | document name => ["internal".toList, "permissions".toList,
      Text.Percent.encode (Address.isEscapedInSegment scheme) name]

def path (scheme : List Char) (asked : Asked) : List Char :=
  (asked.segments scheme).flatMap ('/' :: ·)

/-- What is asked for on behalf of a user. -/
def ofUser (user : String) : Asked :=
  if user = "." ∨ user = ".." then directory
  else if Address.plainName user = ['.'] then document []
  else if Address.plainName user = ['.', '.'] then above
  else document (Address.plainName user)

/-- A document of a name is asked for on behalf of the users of that name, tabs apart. -/
theorem ofUser_eq_document_iff {user : String} {name : List Char} (hne : name ≠ []) :
    ofUser user = document name ↔
      Address.plainName user = name ∧ name ≠ ['.'] ∧ name ≠ ['.', '.'] := by
  unfold ofUser
  split
  next hdots =>
    refine ⟨nofun, ?_⟩
    rintro ⟨rfl, hone, htwo⟩
    rcases hdots with rfl | rfl
    · exact absurd rfl hone
    · exact absurd rfl htwo
  next =>
    split
    next hone =>
      refine ⟨fun h => absurd (document.inj h).symm hne, ?_⟩
      rintro ⟨rfl, hname, -⟩
      exact absurd hone hname
    next hone =>
      split
      next htwo =>
        refine ⟨nofun, ?_⟩
        rintro ⟨rfl, -, hname⟩
        exact absurd htwo hname
      next htwo =>
        constructor
        · intro h
          obtain rfl := document.inj h
          exact ⟨rfl, hone, htwo⟩
        · rintro ⟨rfl, -, -⟩
          rfl

theorem segments_ne_nil : asked.segments scheme ≠ [] := by
  cases asked <;> exact List.cons_ne_nil _ _

theorem path_directory :
    directory.path scheme = '/' :: "internal".toList ++ '/' :: "permissions".toList := by
  simp only [path, segments, List.flatMap_cons, List.flatMap_nil, List.append_nil]

theorem path_above : above.path scheme = '/' :: "internal".toList ++ ['/'] := by
  simp only [path, segments, List.flatMap_cons, List.flatMap_nil, List.append_nil]

theorem path_document (name : List Char) :
    (document name).path scheme = directory.path scheme ++
      '/' :: Text.Percent.encode (Address.isEscapedInSegment scheme) name := by
  simp only [path, segments, List.flatMap_cons, List.flatMap_nil, List.append_nil,
    List.append_assoc]

theorem path_directory_ne_above : directory.path scheme ≠ above.path scheme := by
  intro h
  rw [path_directory, path_above] at h
  obtain ⟨-, hlast⟩ := List.cons.inj (List.append_cancel_left h)
  exact absurd hlast (by decide)

theorem below_directory_ne_directory (rest : List Char) :
    directory.path scheme ++ '/' :: rest ≠ directory.path scheme := by
  intro h
  exact absurd (List.append_right_eq_self.mp h) (List.cons_ne_nil _ _)

theorem below_directory_ne_above (rest : List Char) :
    directory.path scheme ++ '/' :: rest ≠ above.path scheme := by
  intro h
  rw [path_directory, path_above, List.append_assoc] at h
  obtain ⟨-, hlast⟩ := List.cons.inj (List.append_cancel_left h)
  exact absurd (List.append_eq_nil_iff.mp hlast).1 (by decide)

theorem below_directory_eq (rest : List Char) :
    "/internal/permissions/".toList ++ rest = directory.path scheme ++ '/' :: rest := by
  have hslash : "/internal/permissions/".toList =
      '/' :: "internal".toList ++ '/' :: "permissions".toList ++ ['/'] := by decide
  rw [path_directory, hslash, List.append_assoc]
  rfl

/-- Different things are asked for under different paths. -/
theorem path_inj : asked.path scheme = other.path scheme ↔ asked = other := by
  refine ⟨fun h => ?_, fun h => by rw [h]⟩
  cases asked with
  | directory =>
    cases other with
    | directory => rfl
    | above => exact absurd h path_directory_ne_above
    | document name =>
      rw [path_document] at h
      exact absurd h.symm (below_directory_ne_directory _)
  | above =>
    cases other with
    | directory => exact absurd h.symm path_directory_ne_above
    | above => rfl
    | document name =>
      rw [path_document] at h
      exact absurd h.symm (below_directory_ne_above _)
  | document name =>
    rw [path_document] at h
    cases other with
    | directory => exact absurd h (below_directory_ne_directory _)
    | above => exact absurd h (below_directory_ne_above _)
    | document name' =>
      rw [path_document] at h
      obtain ⟨-, hencode⟩ := List.cons.inj (List.append_cancel_left h)
      rw [(Text.Percent.encode_inj Address.isEscapedInSegment_percent).mp hencode]

end Asked

namespace SecurityService

variable {service : SecurityService} {user other : String}

theorem child_directory (address : Address) :
    (address.child "internal").child "permissions" =
      { address with segments := address.segments ++ Asked.directory.segments address.scheme } := by
  rw [Address.child_of_all_isPlainChar rfl, Address.child_of_all_isPlainChar rfl]
  simp only [Asked.segments, List.append_assoc, List.cons_append, List.nil_append]

theorem child_user (address : Address) (user : String) :
    ((address.child "internal").child "permissions").child user =
      { address with
        segments := address.segments ++ (Asked.ofUser user).segments address.scheme } := by
  have hplain : (user.toList.filter fun c => !Address.isBreak c) = Address.plainName user := rfl
  rw [child_directory, Address.child, Asked.ofUser]
  by_cases hdots : user = "." ∨ user = ".."
  · rw [if_pos hdots, if_pos hdots]
  rw [if_neg hdots, if_neg hdots, hplain]
  by_cases hone : Address.plainName user = ['.']
  · simp only [if_pos hone, Asked.segments, List.append_assoc]
    rfl
  by_cases htwo : Address.plainName user = ['.', '.']
  · -- The step up takes the directory away and leaves an empty segment in its place.
    have hlast : (Asked.directory.segments address.scheme).dropLast = ["internal".toList] := rfl
    simp only [if_neg hone, if_pos htwo]
    rw [List.dropLast_append_of_ne_nil Asked.segments_ne_nil, hlast, List.append_assoc]
    rfl
  · simp only [if_neg hone, if_neg htwo, Asked.segments, List.append_assoc]
    rfl

/-- A request asks for something below the address of the service, with the query of the address. -/
theorem target_eq (service : SecurityService) (user : String) :
    service.target user = .ofList (service.address.withoutSlash.path ++
      (Asked.ofUser user).path service.address.scheme ++ service.address.queryPart) := by
  have hsegments : service.address.withoutSlash.segments ++
      (Asked.ofUser user).segments service.address.scheme ≠ [] :=
    List.append_ne_nil_of_right_ne_nil _ Asked.segments_ne_nil
  rw [target, child_user, Address.target_eq hsegments, Address.path, List.flatMap_append]
  rfl

example : target ⟨⟨"http".toList, ["api".toList, []], none⟩, fun _ => none⟩ "jane doe/x" =
    "/api/internal/permissions/jane%20doe%2Fx" := by decide +kernel

/-- Two requests have the same target only if they ask for the same. -/
theorem target_eq_iff :
    service.target user = service.target other ↔ Asked.ofUser user = Asked.ofUser other := by
  rw [target_eq, target_eq, String.ofList_inj, List.append_left_inj, List.append_right_inj,
    Asked.path_inj]

/-- The target of a user is that of a document of the directory: a further segment of the path that
is not empty. -/
def HasDocument (service : SecurityService) (user : String) : Prop :=
  ∃ segment, segment ≠ [] ∧ '/' ∉ segment ∧ '?' ∉ segment ∧
    service.target user = .ofList (service.address.withoutSlash.path ++
      "/internal/permissions/".toList ++ segment ++ service.address.queryPart)

/-- A user has a document if one of a name that is not empty is asked for on his behalf. -/
theorem hasDocument_iff :
    service.HasDocument user ↔ ∃ name ≠ [], Asked.ofUser user = .document name := by
  let scheme := service.address.scheme
  constructor
  · rintro ⟨segment, hne, -, -, htarget⟩
    -- Both sides end in the query of the address, so that the paths before it are the same.
    rw [target_eq, String.ofList_inj, List.append_left_inj, List.append_assoc,
      List.append_right_inj, @Asked.below_directory_eq scheme] at htarget
    cases hasked : Asked.ofUser user with
    | directory =>
      rw [hasked] at htarget
      exact absurd htarget.symm (Asked.below_directory_ne_directory segment)
    | above =>
      rw [hasked] at htarget
      exact absurd htarget.symm (Asked.below_directory_ne_above segment)
    | document name =>
      rw [hasked, Asked.path_document] at htarget
      obtain ⟨-, hsegment⟩ := List.cons.inj (List.append_cancel_left htarget)
      refine ⟨name, ?_, rfl⟩
      rintro rfl
      exact hne hsegment.symm
  · rintro ⟨name, hne, hasked⟩
    let segment := Text.Percent.encode (Address.isEscapedInSegment scheme) name
    have hsegment : segment ≠ [] := by
      rwa [Ne, Text.Percent.encode_eq_nil_iff Address.isEscapedInSegment_percent]
    have hplain : ∀ c, Address.isEscapedInSegment scheme c = true → c ≠ '%' →
        c.isAlphanum = false → c ∉ segment := by
      intro c hescaped hpercent halphanum hmem
      rcases Text.Percent.of_mem_encode hmem with h | h | h
      · exact absurd (hescaped.symm.trans h) (by decide)
      · exact hpercent h
      · exact absurd (h.symm.trans halphanum) (by decide)
    refine ⟨segment, hsegment, ?_, ?_, ?_⟩
    · exact hplain '/' (by simp [Address.isEscapedInSegment]) (by decide) (by decide)
    · exact hplain '?' (by simp [Address.isEscapedInSegment, Address.isEscapedInPath]) (by decide)
        (by decide)
    · rw [target_eq, hasked, Asked.path_document, List.append_assoc _ _ segment,
        Asked.below_directory_eq]

/-! ## Users of requests -/

/-- The user of a request has a document unless his name is one of dots, and shares it exactly with
the users from whose names his differs in tabs alone. -/
theorem target_of_remoteUser {headers : Http.Headers} (service : SecurityService) (other : String)
    (huser : headers.remoteUser? = some user) :
    (service.HasDocument user ↔
      Address.plainName user ≠ ['.'] ∧ Address.plainName user ≠ ['.', '.']) ∧
    (service.HasDocument user →
      (service.target user = service.target other ↔
        Address.plainName user = Address.plainName other)) := by
  obtain ⟨hne, htrim⟩ := Http.Headers.trimmed_of_remoteUser? huser
  have hplain := Address.plainName_ne_nil hne htrim
  constructor
  · rw [hasDocument_iff]
    constructor
    · rintro ⟨name, hname, hasked⟩
      obtain ⟨rfl, hone, htwo⟩ := (Asked.ofUser_eq_document_iff hname).mp hasked
      exact ⟨hone, htwo⟩
    · rintro ⟨hone, htwo⟩
      exact ⟨_, hplain, (Asked.ofUser_eq_document_iff hplain).mpr ⟨rfl, hone, htwo⟩⟩
  · intro hdocument
    obtain ⟨name, hname, hasked⟩ := hasDocument_iff.mp hdocument
    obtain ⟨rfl, hone, htwo⟩ := (Asked.ofUser_eq_document_iff hname).mp hasked
    rw [target_eq_iff, hasked, eq_comm, Asked.ofUser_eq_document_iff hname, eq_comm]
    exact ⟨fun h => h.1, fun h => ⟨h, hone, htwo⟩⟩

/-- A service below a path of its host, which cannot be reached. -/
def silentSecurity : SecurityService :=
  ⟨⟨"http".toList, ["api".toList, []], none⟩, fun _ => none⟩

theorem document_of_jane : silentSecurity.HasDocument "jane doe/x" ∧
    silentSecurity.target "jane doe/x" ≠ silentSecurity.target "jane doe" := by
  have huser : Http.Headers.remoteUser? [("X-Remote-User", " jane doe/x ")] =
      some "jane doe/x" := by decide +kernel
  obtain ⟨hdocument, hshared⟩ := target_of_remoteUser silentSecurity "jane doe" huser
  have hjane := hdocument.mpr (by decide)
  refine ⟨hjane, fun htarget => ?_⟩
  exact absurd ((hshared hjane).mp htarget) (by decide)

/-- Neither has every user of a request a document, nor do two of them always have different ones:
a tab makes no difference, and a dot is no name. -/
theorem users_may_share_or_lack_document :
    (¬ ∀ (text : String) (address : Address) (respond : String → Option SecurityReply)
        (headers headers' : Http.Headers) (user other : String),
      Address.ofText? text = some address →
      headers.remoteUser? = some user → headers'.remoteUser? = some other → user ≠ other →
      target ⟨address, respond⟩ user ≠ target ⟨address, respond⟩ other) ∧
    ¬ ∀ (text : String) (address : Address) (respond : String → Option SecurityReply)
        (headers : Http.Headers) (user : String),
      Address.ofText? text = some address → headers.remoteUser? = some user →
      HasDocument ⟨address, respond⟩ user := by
  obtain ⟨address, haddress⟩ : ∃ address,
      Address.ofText? "http://security:8080/api/" = some address :=
    Option.isSome_iff_exists.mp (by decide +kernel)
  constructor
  · intro hapart
    have hplain : Http.Headers.remoteUser? [("x-remote-user", "ab")] = some "ab" := by
      decide +kernel
    have htab : Http.Headers.remoteUser? [("x-remote-user", "a\tb")] = some "a\tb" := by
      decide +kernel
    refine hapart _ address (fun _ => none) _ _ _ _ haddress hplain htab (by decide) ?_
    exact target_eq_iff.mpr (by decide)
  · intro hall
    have hdot : Http.Headers.remoteUser? [("x-remote-user", ".")] = some "." := by
      decide +kernel
    obtain ⟨name, -, hasked⟩ :=
      hasDocument_iff.mp (hall _ address (fun _ => none) _ _ haddress hdot)
    exact nomatch hasked

end SecurityService

end UploadGate
