import UploadGate.Proofs.Http.Isolation
import UploadGate.Proofs.Reply.Envelope
import UploadGate.Proofs.Service.Stages

/-! # Which failure is reported

A request that submits a form can fail for its form's name, for the shape of its files, for the
registry, for its fields, and for its schema. The first of these in this order makes the answer, and
of the others nothing is seen in it. Permissions that cannot be found out are no failure of their
own: the answer is the one to a user without any.
-/

namespace UploadGate.Http

/-! ## The bodies of answers -/

/-- The body of an answer that reports an error without fields. -/
def failureJson (code message : String) : Json.Value :=
  .object
    [("error", .object [("code", .string code), ("message", .string message)]),
      ("meta", .object []), ("success", .bool false)]

/-- The body of an answer that reports the messages of fields. -/
def fieldsFailureJson (fields : NameTable (List String)) : Json.Value :=
  .object
    [("error", .object
        [("code", .string "VALIDATION_ERROR"),
          ("details", .object [("fields", .object (fields.map Json.Value.strings).entries)]),
          ("message", .string "form validation failed")]),
      ("meta", .object []), ("success", .bool false)]

/-- The body of an answer that takes in an upload. -/
def uploadJson (requestId : String) (upload : Form.Upload) : Json.Value :=
  .object
    [("data", upload.toJson),
      ("meta", .object
        [("request_id", .string requestId), ("service", .string "upload-service")]),
      ("success", .bool true)]

/-! ## What decides -/

/-- A request by which a user submits a form of some name, with a body that is taken in. -/
structure Submits (request : Request) (user name : String) (submission : Form.Submission) :
    Prop where
  method : request.method = "POST"
  path : ∃ segment, segment ≠ [] ∧ '/' ∉ segment ∧
    Text.Percent.decodeText? segment = some name ∧
    Route.pathOf request.target =
      "/api/upload/forms/".toList ++ segment ++ "/validate".toList
  user : request.headers.remoteUser? = some user
  body : Router.submission request = .ok submission

/-- The connection and the schema that a submission is for, if its fields are in order. -/
structure Asks (submission : Form.Submission) (connections : List Connection)
    (connection : Connection) (schema : Option String) : Prop where
  database : ∃ text id, submission.fields.get? "database" = some text ∧ Form.IsInteger text id ∧
    connections.find? (·.id = id) = some connection
  schema : schema = ((submission.fields.get? "schema").map Text.trim).filter (· ≠ "")

/-- A submission by a user gets as far as the fields of a form, with the connections on offer. -/
structure ReachesFields (deployment : Deployment) (user name : String)
    (submission : Form.Submission) (kind : Form.Kind) (connections : List Connection) : Prop where
  name : Text.lower name = kind.slug
  shape : ∀ path message, ¬ submission.Misses path message
  eligible : deployment.service.eligible user = .ok connections

/-- What is wrong with a field of the form that a deployment offers with some connections. -/
abbrev Finds (deployment : Deployment) (submission : Form.Submission) (kind : Form.Kind)
    (connections : List Connection) : String → Form.Problem → Prop :=
  Form.Finds deployment.service.upload kind (connections.map Connection.choice) submission

/-- The status and the body that a submission by a user comes to. Each case but the first needs that
none before it applies. -/
inductive Verdict (deployment : Deployment) (requestId user name : String)
    (submission : Form.Submission) : Nat → Json.Value → Prop
  | unknownForm (hname : ∀ kind : Form.Kind, Text.lower name ≠ kind.slug) :
    Verdict deployment requestId user name submission 404
      (failureJson "FORM_NOT_FOUND" ("unknown upload form: " ++ Text.lower name))
  | misshapen {kind : Form.Kind} {fields : NameTable (List String)}
      (hname : Text.lower name = kind.slug)
      (hmisses : ∃ path message, submission.Misses path message)
      (hfields : ∀ path texts, fields.get? path = some texts ↔
        ∃ message, submission.Misses path message ∧ texts = [message]) :
    Verdict deployment requestId user name submission 400 (fieldsFailureJson fields)
  | registry {kind : Form.Kind} {fault : Registry.Fault}
      (hname : Text.lower name = kind.slug)
      (hshape : ∀ path message, ¬ submission.Misses path message)
      (hfault : deployment.service.registry.uploadAllowed = .error fault) :
    Verdict deployment requestId user name submission 500
      (failureJson "DATABASE_QUERY_ERROR" ("database query error: " ++ fault.message))
  | invalid {kind : Form.Kind} {connections : List Connection} {fields : NameTable (List String)}
      (hreaches : ReachesFields deployment user name submission kind connections)
      (hfinds : ∃ field problem, Finds deployment submission kind connections field problem)
      (hfields : ∀ field texts, fields.get? field = some texts ↔
        ∃ problem, Finds deployment submission kind connections field problem ∧
          texts = [problem.message]) :
    Verdict deployment requestId user name submission 400 (fieldsFailureJson fields)
  | schema {kind : Form.Kind} {connections : List Connection} {connection : Connection}
      {schema : Option String}
      (hreaches : ReachesFields deployment user name submission kind connections)
      (hvalid : ∀ field problem, ¬ Finds deployment submission kind connections field problem)
      (hasks : Asks submission connections connection schema)
      (hforbidden : connection.allowsSchema (some (deployment.service.permissionsOf user)) schema =
        false) :
    Verdict deployment requestId user name submission 400
      (fieldsFailureJson (.ofList
        [("schema", [UploadService.Refusal.schemaMessage connection schema kind])]))
  | accepted {kind : Form.Kind} {connections : List Connection} {connection : Connection}
      {schema : Option String} {upload : Form.Upload}
      (hreaches : ReachesFields deployment user name submission kind connections)
      (hvalid : ∀ field problem, ¬ Finds deployment submission kind connections field problem)
      (hasks : Asks submission connections connection schema)
      (hallowed : connection.allowsSchema (some (deployment.service.permissionsOf user)) schema =
        true)
      (hupload : (Form.catalog deployment.service.upload kind).validate
        (connections.map Connection.choice) submission = .ok upload) :
    Verdict deployment requestId user name submission 200 (uploadJson requestId upload)

namespace Router

variable {deployment : Deployment} {requestId freshId user name : String} {request : Request}
  {submission : Form.Submission} {kind : Form.Kind}

theorem ofError_of_no_fields {error : ServiceError} (h : error.fieldMessages? = none) :
    Reply.ofError error = ⟨error.status, some (failureJson error.code error.message)⟩ := by
  rw [Reply.ofError, Envelope.ofError, ServiceError.details?, h, Option.map_none,
    Envelope.toJson_failure, Envelope.errorJson_of_no_details, failureJson]

theorem ofError_formValidation (errors : ErrorTree) :
    Reply.ofError (.formValidation errors) = ⟨400, some (fieldsFailureJson errors.messages)⟩ := by
  have hdetails : (ServiceError.formValidation errors).details? = some (.object
      [("fields", .object (errors.messages.map Json.Value.strings).entries)]) := rfl
  rw [Reply.ofError, Envelope.ofError, hdetails, Envelope.toJson_failure,
    Envelope.errorJson_of_details]
  rfl

theorem ofData_upload (upload : Form.Upload) :
    Reply.ofData requestId upload.toJson = ⟨200, some (uploadJson requestId upload)⟩ := by
  rw [Reply.ofData, Envelope.toJson_ok, uploadJson, serviceName]

theorem withKind_of_slug {next : Form.Kind → Reply} (h : Text.lower name = kind.slug) :
    withKind name next = next kind := by
  rw [withKind, Form.Kind.ofName, Form.Kind.ofName?_eq_some_iff.mpr h]

theorem withKind_of_no_slug {next : Form.Kind → Reply}
    (h : ∀ kind : Form.Kind, Text.lower name ≠ kind.slug) :
    withKind name next = ⟨404, some (failureJson "FORM_NOT_FOUND"
      ("unknown upload form: " ++ Text.lower name))⟩ := by
  have hnone : Form.Kind.ofName? name = none := by
    rw [Option.eq_none_iff_forall_ne_some]
    exact fun kind hkind => h kind (Form.Kind.ofName?_eq_some_iff.mp hkind)
  rw [withKind, Form.Kind.ofName, hnone]
  exact ofError_of_no_fields rfl

/-- A body is taken in if it is sent as JSON, is not too large, and is that of a submission. -/
theorem submission_eq_ok_iff :
    Router.submission request = .ok submission ↔ hasJsonBody request = true ∧
      request.body.utf8ByteSize ≤ bodyLimit ∧
      Json.decode Form.Submission.decoder request.body = .ok submission := by
  rw [Router.submission]
  by_cases htype : hasJsonBody request = true
  · by_cases hsize : request.body.utf8ByteSize ≤ bodyLimit
    · rw [if_neg (by simp [htype]), if_neg (by omega)]
      cases Json.decode Form.Submission.decoder request.body with
      | ok found => simp [htype, hsize]
      | error fault => cases fault <;> simp
    · simp [htype, hsize, Nat.not_le.mp hsize]
  · simp [htype]

/-- A submission gets to the service if there is a form of the name. -/
theorem reply_of_submits (h : Submits request user name submission) :
    reply deployment requestId request = withKind name fun kind =>
      .ofResult requestId Form.Upload.toJson
        (deployment.service.validate kind user submission) := by
  obtain ⟨segment, hne, hslash, hdecode, hpath⟩ := h.path
  have hroute : Route.ofPath? (Route.pathOf request.target) = some (.validate segment) := by
    refine Route.ofPath?_eq_some_iff.mpr ⟨⟨hne, hslash⟩, ?_⟩
    rw [hpath]
    simp [Route.path, Route.segments]
  have htakes : takes (.validate segment) request.method = true := by
    rw [h.method]
    rfl
  rw [reply, hroute]
  dsimp only
  have hguarded : (Route.validate segment).isGuarded = true := rfl
  rw [serveRoute, if_pos hguarded, h.user]
  dsimp only
  rw [serveMethod, if_pos htakes, serve, withName, hdecode]
  dsimp only
  rw [h.body]

/-! ## The verdict -/

/-- A reply is what a submission comes to. -/
def Reply.Decides (reply : Reply) (deployment : Deployment) (requestId user name : String)
    (submission : Form.Submission) : Prop :=
  ∃ body, reply.body = some body ∧
    Verdict deployment requestId user name submission reply.status body

variable {user : String} {connections : List Connection}

/-- The messages of a refusal for the fields are those of what is wrong with them. -/
theorem get?_messages_fields_eq_some_iff {field : String} {texts : List String} :
    (UploadService.Refusal.fieldErrors ((deployment.service.form kind).draft
        (connections.map Connection.choice) submission).problems).messages.get? field =
      some texts ↔
      ∃ problem, Finds deployment submission kind connections field problem ∧
        texts = [problem.message] := by
  rw [UploadService.Refusal.get?_messages_fieldErrors, Option.map_eq_some_iff]
  constructor
  · rintro ⟨problems, hproblems, rfl⟩
    obtain ⟨problem, hfinds, rfl⟩ := Form.get?_problems_draft_eq_some_iff.mp hproblems
    exact ⟨problem, hfinds, rfl⟩
  · rintro ⟨problem, hfinds, rfl⟩
    exact ⟨[problem], Form.get?_problems_draft_eq_some_iff.mpr ⟨problem, hfinds, rfl⟩, rfl⟩

theorem decides_weigh_of_not_fillsIn
    (hreaches : ReachesFields deployment user name submission kind connections)
    (hfills : ¬ Form.FillsIn deployment.service.upload kind (connections.map Connection.choice)
      submission) :
    (Reply.ofResult requestId Form.Upload.toJson
      (deployment.service.weigh kind user submission connections)).Decides deployment requestId
        user name submission := by
  have hfinds := Form.exists_finds_iff_not_fillsIn.mpr hfills
  rw [UploadService.weigh_of_not_fillsIn hfills, Reply.ofResult, UploadService.Refusal.toError,
    ofError_formValidation]
  exact ⟨_, rfl, .invalid hreaches hfinds fun _ _ => get?_messages_fields_eq_some_iff⟩

theorem decides_weigh_of_fillsIn
    (hreaches : ReachesFields deployment user name submission kind connections)
    (hfills : Form.FillsIn deployment.service.upload kind (connections.map Connection.choice)
      submission) :
    (Reply.ofResult requestId Form.Upload.toJson
      (deployment.service.weigh kind user submission connections)).Decides deployment requestId
        user name submission := by
  have hvalid : ∀ field problem, ¬ Finds deployment submission kind connections field problem :=
    fun field problem hfinds =>
      Form.exists_finds_iff_not_fillsIn.mp ⟨field, problem, hfinds⟩ hfills
  obtain ⟨upload, hupload⟩ : ∃ upload, (deployment.service.form kind).validate
      (connections.map Connection.choice) submission = .ok upload :=
    Form.exists_validate_catalog hfills
  obtain ⟨-, text, htext, hinteger⟩ := Form.databaseId_of_validate_catalog hupload
  obtain ⟨connection, hfound, hweigh⟩ := UploadService.weigh_of_validate_form hupload
  have hasks : Asks submission connections connection upload.schema :=
    ⟨⟨text, upload.databaseId, htext, hinteger, hfound⟩, Form.schema_of_validate_catalog hupload⟩
  have hform : upload.form = kind := Form.form_of_validate_catalog hupload
  rw [hweigh user]
  split
  next hallowed =>
    rw [Reply.ofResult, ofData_upload]
    exact ⟨_, rfl, .accepted hreaches hvalid hasks hallowed hupload⟩
  next hforbidden =>
    rw [Reply.ofResult, UploadService.Refusal.toError, ofError_formValidation,
      UploadService.Refusal.messages_schema, hform]
    exact ⟨_, rfl, .schema hreaches hvalid hasks (by simpa using hforbidden)⟩

theorem decides_validate (hname : Text.lower name = kind.slug) :
    (Reply.ofResult requestId Form.Upload.toJson
      (deployment.service.validate kind user submission)).Decides deployment requestId user name
        submission := by
  by_cases hmisses : ∃ path message, submission.Misses path message
  · rw [UploadService.validate_of_misshapen hmisses, Reply.ofResult, UploadService.Refusal.toError,
      ofError_formValidation]
    exact ⟨_, rfl, .misshapen hname hmisses fun _ _ =>
      Form.Submission.get?_messages_shapeErrors_eq_some_iff⟩
  · have hshape : ∀ path message, ¬ submission.Misses path message := by simpa using hmisses
    rw [UploadService.validate_of_wellShaped hshape]
    cases heligible : deployment.service.eligible user with
    | ok connections =>
      have hreaches : ReachesFields deployment user name submission kind connections :=
        ⟨hname, hshape, heligible⟩
      by_cases hfills : Form.FillsIn deployment.service.upload kind
        (connections.map Connection.choice) submission
      · exact decides_weigh_of_fillsIn hreaches hfills
      · exact decides_weigh_of_not_fillsIn hreaches hfills
    | error refusal =>
      obtain ⟨fault, hfault, rfl⟩ := UploadService.eligible_eq_error_iff.mp heligible
      rw [Except.bind, Reply.ofResult, ofError_of_no_fields rfl]
      exact ⟨_, rfl, .registry hname hshape hfault⟩

theorem decides_reply (h : Submits request user name submission) :
    (reply deployment requestId request).Decides deployment requestId user name submission := by
  rw [reply_of_submits h]
  by_cases hname : ∃ kind : Form.Kind, Text.lower name = kind.slug
  · obtain ⟨kind, hname⟩ := hname
    rw [withKind_of_slug hname]
    exact decides_validate hname
  · have hunknown : ∀ kind : Form.Kind, Text.lower name ≠ kind.slug := by simpa using hname
    rw [withKind_of_no_slug hunknown]
    exact ⟨_, rfl, .unknownForm hunknown⟩

end Router

variable {request : Request} {user name : String} {submission : Form.Submission}

/-- Only a registry that fails is answered as a failure of the service. -/
theorem Verdict.exists_fault {deployment : Deployment} {requestId : String} {status : Nat}
    {body : Json.Value} (h : Verdict deployment requestId user name submission status body)
    (hstatus : 500 ≤ status) :
    ∃ fault, deployment.service.registry.uploadAllowed = .error fault := by
  cases h with
  | registry _ _ hfault => exact ⟨_, hfault⟩
  | unknownForm | misshapen | invalid | schema | accepted => omega

/-- Permissions that cannot be found out count as none. -/
theorem respond_of_lookup_error {deployment : Deployment} {fault : LookupFault}
    (huser : request.headers.remoteUser? = some user)
    (h : deployment.service.permissions.lookup user = .error fault) (freshId : String) :
    respond deployment freshId request =
      respond ⟨deployment.settings, deployment.service.withPermissions (.ofGrants [])⟩ freshId
        request := by
  have hfailed : deployment.service.permissionsOf user = .none user := by
    rw [UploadService.permissionsOf, h]
  have hempty : (deployment.service.withPermissions (.ofGrants [])).permissionsOf user =
      .none user := by
    rw [UploadService.permissionsOf, UploadService.withPermissions,
      lookup_ofGrants, lastGrant?_of_others (by simp)]
    rfl
  have hgrants : (deployment.service.permissionsOf user).SameGrants
      ((deployment.service.withPermissions (.ofGrants [])).permissionsOf user) := by
    rw [hfailed, hempty]
    exact .refl _
  have hsame := UploadService.sameAnswers_of_sameGrants hgrants
  exact respond_congr (by rfl) huser hsame freshId

/-- A request that submits a form gets the verdict on its submission, of every deployment. It is a
failure of the service only if the registry fails, and with permissions that cannot be found out it
is the verdict for a user without any. -/
theorem respond_of_submits (h : Submits request user name submission) (deployment : Deployment)
    (freshId : String) :
    (∃ status body,
      Verdict deployment (request.headers.requestId?.getD freshId) user name submission status
        body ∧
      respond deployment freshId request =
        ⟨status, some (request.headers.requestId?.getD freshId), some body⟩) ∧
    (500 ≤ (respond deployment freshId request).status →
      ∃ fault, deployment.service.registry.uploadAllowed = .error fault) ∧
    ((∃ fault, deployment.service.permissions.lookup user = .error fault) →
      respond deployment freshId request =
        respond ⟨deployment.settings, deployment.service.withPermissions (.ofGrants [])⟩ freshId
          request) := by
  obtain ⟨body, hbody, hverdict⟩ : (Router.reply deployment
      (request.headers.requestId?.getD freshId) request).Decides deployment
        (request.headers.requestId?.getD freshId) user name submission := Router.decides_reply h
  have hoptions : request.method ≠ "OPTIONS" := by simp [h.method]
  have hhead : request.method ≠ "HEAD" := by simp [h.method]
  have hrespond : respond deployment freshId request =
      ⟨(Router.reply deployment (request.headers.requestId?.getD freshId) request).status,
        some (request.headers.requestId?.getD freshId), some body⟩ := by
    simp only [respond, if_neg hoptions, if_neg hhead, hbody]
  refine ⟨⟨_, body, hverdict, hrespond⟩, ?_, ?_⟩
  · intro hstatus
    rw [hrespond] at hstatus
    exact hverdict.exists_fault hstatus
  · rintro ⟨fault, hfault⟩
    exact respond_of_lookup_error h.user hfault freshId

/-- A file that does not name its field, for a form whose name is in upper case. -/
def strayFileRequest : Request where
  method := "POST"
  target := "/api/upload/forms/CSV/validate"
  headers := [("content-type", "application/json"), ("x-remote-user", "analyst")]
  body := "\x7b\"files\": [\x7b\"field\": \"\", \"filename\": \"sales.csv\"\x7d]\x7d"

theorem respond_strayFileRequest :
    Submits strayFileRequest "analyst" "CSV" ⟨∅, [⟨"", "sales.csv"⟩]⟩ ∧
      ∃ status body,
        Verdict warehouseDeployment "fresh" "analyst" "CSV" ⟨∅, [⟨"", "sales.csv"⟩]⟩ status body ∧
        respond warehouseDeployment "fresh" strayFileRequest =
          ⟨status, some "fresh", some body⟩ := by
  have hpath : Route.pathOf strayFileRequest.target =
      "/api/upload/forms/".toList ++ "CSV".toList ++ "/validate".toList := by decide +kernel
  have hjson : Router.hasJsonBody strayFileRequest = true := by decide +kernel
  have hsize : strayFileRequest.body.utf8ByteSize ≤ Router.bodyLimit := by decide +kernel
  have hdecode : (Json.decode Form.Submission.decoder strayFileRequest.body).toOption =
      some ⟨∅, [⟨"", "sales.csv"⟩]⟩ := by decide +kernel
  rw [Json.toOption_eq_some_iff] at hdecode
  have hsubmits : Submits strayFileRequest "analyst" "CSV" ⟨∅, [⟨"", "sales.csv"⟩]⟩ :=
    { method := rfl
      path := ⟨"CSV".toList, by decide, by decide, by decide +kernel, hpath⟩
      user := by decide +kernel
      body := Router.submission_eq_ok_iff.mpr ⟨hjson, hsize, hdecode⟩ }
  have hfresh : strayFileRequest.headers.requestId?.getD "fresh" = "fresh" := by decide +kernel
  have hrespond := (respond_of_submits hsubmits warehouseDeployment "fresh").1
  rw [hfresh] at hrespond
  exact ⟨hsubmits, hrespond⟩

end UploadGate.Http
