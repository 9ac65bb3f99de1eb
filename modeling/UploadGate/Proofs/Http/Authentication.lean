import UploadGate.Http.Router
import UploadGate.Proofs.Http.Paths
import UploadGate.Proofs.Service.Authorisation

/-! # Requests without a user

A request for anything about uploads that names no user gets one and the same refusal from every
deployment, and no other request is refused as unauthorized. Only the first header for the user
counts: a second one does not mend a first one that is blank or no text.
-/

namespace UploadGate.Http

/-! ## The user of a request -/

namespace Headers

variable {headers : Headers} {name value : String}

/-- The first header of a name, in upper or lower case, has the value. -/
def IsFirst (headers : Headers) (name value : String) : Prop :=
  ∃ front header back, headers = front ++ header :: back ∧ header.1.toLower = name ∧
    header.2 = value ∧ ∀ earlier ∈ front, earlier.1.toLower ≠ name

/-- Printable ASCII characters and tabs. -/
def IsText (value : String) : Prop :=
  ∀ c ∈ value.toList, c = '\t' ∨ (0x20 ≤ c.toNat ∧ c.toNat ≤ 0x7E)

def IsBlank (value : String) : Prop := ∀ c ∈ value.toList, Text.isBlank c = true

/-- The ways for a request to have no user. -/
inductive LacksUser (headers : Headers) : Prop
  | missing (h : ∀ header ∈ headers, header.1.toLower ≠ "x-remote-user")
  | noText {value : String} (hfirst : headers.IsFirst "x-remote-user" value) (h : ¬ IsText value)
  | blank {value : String} (hfirst : headers.IsFirst "x-remote-user" value) (h : IsBlank value)

/-- The first header for the user names one. -/
def NamesUser (headers : Headers) : Prop :=
  ∃ value, headers.IsFirst "x-remote-user" value ∧ IsText value ∧ ¬ IsBlank value

theorem isTextChar_eq_true_iff {c : Char} :
    isTextChar c = true ↔ c = '\t' ∨ (0x20 ≤ c.toNat ∧ c.toNat ≤ 0x7E) := by
  simp only [isTextChar, Bool.or_eq_true, Bool.and_eq_true, decide_eq_true_eq]
  rfl

theorem find?_eq_some_iff_isFirst :
    (headers.find? fun header => header.1.toLower = name).map (·.2) = some value ↔
      headers.IsFirst name value := by
  simp only [Option.map_eq_some_iff, List.find?_eq_some_iff_append, IsFirst]
  constructor
  · rintro ⟨header, ⟨hname, front, back, rfl, hfront⟩, rfl⟩
    exact ⟨front, header, back, rfl, by simpa using hname, rfl, by simpa using hfront⟩
  · rintro ⟨front, header, back, rfl, hname, rfl, hfront⟩
    exact ⟨header, ⟨by simpa using hname, front, back, rfl, by simpa using hfront⟩, rfl⟩

/-- A header has one first value at most. -/
theorem IsFirst.unique {other : String} (h : headers.IsFirst name value)
    (hother : headers.IsFirst name other) : value = other :=
  Option.some.inj ((find?_eq_some_iff_isFirst.mpr h).symm.trans
    (find?_eq_some_iff_isFirst.mpr hother))

theorem text?_eq_some_iff :
    headers.text? name = some value ↔ headers.IsFirst name value ∧ IsText value := by
  simp only [text?, Option.filter_eq_some_iff, find?_eq_some_iff_isFirst, List.all_eq_true,
    isTextChar_eq_true_iff]
  rfl

theorem trim_ne_empty_iff : Text.trim value ≠ "" ↔ ¬ IsBlank value := by
  rw [ne_eq, ← Text.blank_iff_trim_eq_empty, Text.blank, List.all_eq_true]
  rfl

theorem namesUser_iff : headers.NamesUser ↔ ∃ user, headers.remoteUser? = some user := by
  simp only [remoteUser?, Option.filter_eq_some_iff, Option.map_eq_some_iff, text?_eq_some_iff,
    decide_eq_true_eq, NamesUser]
  constructor
  · rintro ⟨value, hfirst, htext, hblank⟩
    exact ⟨_, ⟨value, ⟨hfirst, htext⟩, rfl⟩, trim_ne_empty_iff.mpr hblank⟩
  · rintro ⟨_, ⟨value, ⟨hfirst, htext⟩, rfl⟩, hblank⟩
    exact ⟨value, hfirst, htext, trim_ne_empty_iff.mp hblank⟩

/-- A request lacks a user exactly if its first header for one does not name any. -/
theorem lacksUser_iff_not_namesUser : headers.LacksUser ↔ ¬ headers.NamesUser := by
  constructor
  · rintro hlacks ⟨value, hfirst, htext, hblank⟩
    cases hlacks with
    | missing h =>
      obtain ⟨front, header, back, rfl, hname, -⟩ := hfirst
      exact h header (by simp) hname
    | noText hfirst' h => exact h (hfirst'.unique hfirst ▸ htext)
    | blank hfirst' h => exact hblank (hfirst'.unique hfirst ▸ h)
  · intro hnames
    cases hfind : (headers.find? fun header => header.1.toLower = "x-remote-user").map (·.2) with
    | none => exact .missing (by simpa using hfind)
    | some value =>
      have hfirst := find?_eq_some_iff_isFirst.mp hfind
      by_cases htext : IsText value
      · by_cases hblank : IsBlank value
        · exact .blank hfirst hblank
        · exact absurd ⟨value, hfirst, htext, hblank⟩ hnames
      · exact .noText hfirst htext

theorem remoteUser?_eq_none_iff : headers.remoteUser? = none ↔ headers.LacksUser := by
  rw [lacksUser_iff_not_namesUser, namesUser_iff, Option.eq_none_iff_forall_ne_some, not_exists]

end Headers

/-! ## Paths of uploads -/

/-- The paths at which uploads are dealt with. -/
inductive IsUploadPath : List Char → Prop
  | databases : IsUploadPath "/api/upload/databases".toList
  | forms : IsUploadPath "/api/upload/forms".toList
  | form {name : List Char} (hne : name ≠ []) (hslash : '/' ∉ name) :
    IsUploadPath ("/api/upload/forms/".toList ++ name)
  | validate {name : List Char} (hne : name ≠ []) (hslash : '/' ∉ name) :
    IsUploadPath ("/api/upload/forms/".toList ++ name ++ "/validate".toList)

theorem exists_isGuarded_of_isUploadPath {path : List Char} (h : IsUploadPath path) :
    ∃ route, Route.ofPath? path = some route ∧ route.isGuarded = true := by
  cases h with
  | databases => exact ⟨.databases, Route.ofPath?_eq_some_iff.mpr ⟨trivial, rfl⟩, rfl⟩
  | forms => exact ⟨.forms, Route.ofPath?_eq_some_iff.mpr ⟨trivial, rfl⟩, rfl⟩
  | @form name hne hslash =>
    refine ⟨.form name, Route.ofPath?_eq_some_iff.mpr ⟨⟨hne, hslash⟩, ?_⟩, rfl⟩
    simp [Route.path, Route.segments]
  | @validate name hne hslash =>
    refine ⟨.validate name, Route.ofPath?_eq_some_iff.mpr ⟨⟨hne, hslash⟩, ?_⟩, rfl⟩
    simp [Route.path, Route.segments]

namespace Router

variable {deployment : Deployment} {requestId freshId user : String} {request : Request}
  {route : Route}

/-- The body of the answer to a request without a user. -/
def unauthorizedJson : Json.Value :=
  .object
    [("error", .object
        [("code", .string "UNAUTHORIZED"),
          ("message", .string "unauthorized: missing x-remote-user header")]),
      ("meta", .object []), ("success", .bool false)]

theorem ofError_unauthorized : Reply.ofError unauthorized = ⟨401, some unauthorizedJson⟩ := by
  rfl

/-! ## No other refusal is one for want of a user -/

/-- The service itself never refuses for want of a user. -/
theorem status_toError_ne (refusal : UploadService.Refusal) : refusal.toError.status ≠ 401 := by
  cases refusal <;> simp [UploadService.Refusal.toError, ServiceError.status]

theorem status_ofResult_ne {α : Type} (write : α → Json.Value)
    (result : Except UploadService.Refusal α) :
    (Reply.ofResult requestId write result).status ≠ 401 := by
  cases result with
  | ok data => simp [Reply.ofResult, Reply.ofData]
  | error refusal => exact status_toError_ne refusal

theorem status_withKind_ne {name : String} {next : Form.Kind → Reply}
    (h : ∀ kind, (next kind).status ≠ 401) : (withKind name next).status ≠ 401 := by
  unfold withKind
  split
  next kind _ => exact h kind
  next error herror =>
    -- A name that is no slug is the one error here.
    unfold Form.Kind.ofName at herror
    split at herror
    next => exact absurd herror (by simp)
    next =>
      obtain rfl := Except.error.inj herror
      simp [Reply.ofError, ServiceError.status]

theorem status_withName_ne {segment : List Char} {next : String → Reply}
    (h : ∀ name, (next name).status ≠ 401) : (withName segment next).status ≠ 401 := by
  unfold withName
  split
  next name _ => exact h name
  next => simp [Reply.plain]

theorem status_ne_of_submission {reply : Reply} (h : submission request = .error reply) :
    reply.status ≠ 401 := by
  revert h
  fun_cases submission request <;> rintro ⟨⟩ <;> simp [Reply.plain]

theorem status_serve_ne : (serve deployment requestId user request route).status ≠ 401 := by
  cases route with
  | databases => exact status_ofResult_ne _ _
  | forms | health | apiDocs => simp [serve, Reply.ofData]
  | form segment =>
    exact status_withName_ne fun name => status_withKind_ne fun kind => status_ofResult_ne _ _
  | validate segment =>
    refine status_withName_ne fun name => ?_
    split
    next reply hreply => exact status_ne_of_submission hreply
    next => exact status_withKind_ne fun kind => status_ofResult_ne _ _

theorem status_serveMethod_ne :
    (serveMethod deployment requestId user request route).status ≠ 401 := by
  unfold serveMethod
  split
  next => exact status_serve_ne
  next => simp [Reply.plain]

/-- With a user, a request for any path is answered otherwise. -/
theorem status_reply_ne (h : request.headers.NamesUser) :
    (reply deployment requestId request).status ≠ 401 := by
  obtain ⟨user, huser⟩ := Headers.namesUser_iff.mp h
  unfold reply
  split
  next route _ =>
    unfold serveRoute
    split
    next =>
      rw [huser]
      exact status_serveMethod_ne
    next => exact status_serveMethod_ne
  next => simp [Reply.plain]

/-- Without a user, a request for uploads is refused before anything else about it counts. -/
theorem reply_of_lacksUser (hpath : IsUploadPath (Route.pathOf request.target))
    (hlacks : request.headers.LacksUser) :
    reply deployment requestId request = ⟨401, some unauthorizedJson⟩ := by
  obtain ⟨route, hroute, hguarded⟩ := exists_isGuarded_of_isUploadPath hpath
  rw [reply, hroute]
  show serveRoute deployment requestId request route = _
  rw [serveRoute, if_pos hguarded, Headers.remoteUser?_eq_none_iff.mpr hlacks]
  exact ofError_unauthorized

end Router

/-- The answer to a request for uploads without a user, under the identifier of the request. -/
def unauthorizedResponse (requestId : String) : Response :=
  ⟨401, some requestId, some Router.unauthorizedJson⟩

/-- Whoever does not name a user learns nothing about the service: a request for uploads gets the
same refusal from every deployment, whatever else is in it. Whoever names a user is never refused
in this way, whatever the request is for. -/
theorem unauthorized_of_lacksUser_not_of_namesUser (request : Request) :
    (request.method = "GET" ∨ request.method = "POST" →
      IsUploadPath (Route.pathOf request.target) → request.headers.LacksUser →
      ∀ (deployment : Deployment) (freshId : String),
        respond deployment freshId request =
          unauthorizedResponse (request.headers.requestId?.getD freshId)) ∧
    (request.headers.NamesUser →
      ∀ (deployment : Deployment) (freshId : String),
        (respond deployment freshId request).status ≠ 401) := by
  constructor
  · intro hmethod hpath hlacks deployment freshId
    have hoptions : request.method ≠ "OPTIONS" := by rcases hmethod with h | h <;> simp [h]
    have hhead : request.method ≠ "HEAD" := by rcases hmethod with h | h <;> simp [h]
    simp only [respond, if_neg hoptions, if_neg hhead, Router.reply_of_lacksUser hpath hlacks,
      unauthorizedResponse]
  · intro hnames deployment freshId
    unfold respond
    split
    next => simp
    next => exact Router.status_reply_ne hnames

/-- The warehouse's service, under settings that name no database. -/
def warehouseDeployment : Deployment :=
  ⟨⟨"0.0.0.0", 8082, none, 5, 10, none, none, .builtIn⟩, UploadService.warehouseService⟩

/-- A submission of no JSON for no form, with a second header for the user. -/
def strayRequest (user : String) : Request where
  method := "POST"
  target := "/api/upload/forms/no%20form/validate?retry=1"
  headers := [("Content-Type", "text/plain"), ("X-Remote-User", user), ("x-remote-user", "jane")]
  body := "\x7b"

theorem isFirst_strayRequest (user : String) :
    (strayRequest user).headers.IsFirst "x-remote-user" user := by
  have hname : "X-Remote-User".toLower = "x-remote-user" := by decide +kernel
  exact ⟨[("Content-Type", "text/plain")], ("X-Remote-User", user), [("x-remote-user", "jane")],
    rfl, hname, rfl, by decide +kernel⟩

theorem unauthorized_strayRequest :
    (strayRequest "\t ").method = "POST" ∧
      IsUploadPath (Route.pathOf (strayRequest "\t ").target) ∧
      (strayRequest "\t ").headers.LacksUser ∧
      respond warehouseDeployment "fresh" (strayRequest "\t ") = unauthorizedResponse "fresh" ∧
      (strayRequest " jane ").headers.NamesUser ∧
      (respond warehouseDeployment "fresh" (strayRequest " jane ")).status ≠ 401 := by
  have hpath : IsUploadPath (Route.pathOf (strayRequest "\t ").target) := by
    have hname : Route.pathOf (strayRequest "\t ").target =
        "/api/upload/forms/".toList ++ "no%20form".toList ++ "/validate".toList := by
      decide +kernel
    rw [hname]
    exact .validate (by decide) (by decide)
  have hlacks : (strayRequest "\t ").headers.LacksUser :=
    .blank (isFirst_strayRequest "\t ") (List.all_eq_true.mp (by decide))
  have htext : Headers.IsText " jane " := fun c hc =>
    Headers.isTextChar_eq_true_iff.mp (List.all_eq_true.mp (by decide) c hc)
  have hnames : (strayRequest " jane ").headers.NamesUser :=
    ⟨" jane ", isFirst_strayRequest " jane ", htext,
      fun hblank => absurd (hblank 'j' (by decide)) (by decide)⟩
  have hfresh : (strayRequest "\t ").headers.requestId?.getD "fresh" = "fresh" := by
    decide +kernel
  refine ⟨rfl, hpath, hlacks, ?_, hnames, ?_⟩
  · rw [(unauthorized_of_lacksUser_not_of_namesUser _).1 (Or.inr rfl) hpath hlacks, hfresh]
  · exact (unauthorized_of_lacksUser_not_of_namesUser _).2 hnames warehouseDeployment "fresh"

end UploadGate.Http
