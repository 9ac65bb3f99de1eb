import UploadGate.Proofs.Http.Authentication
import UploadGate.Proofs.Permissions.Grants
import UploadGate.Proofs.Service.Dependence

/-! # Users are isolated from each other's grants

Two services that answer a user alike send the same answers to all his requests. Two lists of grants
make such services if the user's last grant is the same in both, whatever else they hold.
-/

namespace UploadGate

namespace UploadService

variable {first second : List Permissions} {user : String}

/-- A service over a list of grants. -/
def overGrants (registry : Registry) (upload : UploadSettings) (grants : List Permissions) :
    UploadService :=
  ⟨registry, .ofGrants grants, upload⟩

theorem permissionsOf_overGrants (registry : Registry) (upload : UploadSettings)
    (grants : List Permissions) :
    (overGrants registry upload grants).permissionsOf user =
      (lastGrant? grants user).getD (.none user) := by
  rw [permissionsOf, overGrants, lookup_ofGrants]

theorem sameAnswers_overGrants (h : lastGrant? first user = lastGrant? second user)
    (registry : Registry) (upload : UploadSettings) :
    SameAnswers (overGrants registry upload first) (overGrants registry upload second) user := by
  have hgrants : ((overGrants registry upload first).permissionsOf user).SameGrants
      ((overGrants registry upload second).permissionsOf user) := by
    rw [permissionsOf_overGrants, permissionsOf_overGrants, h]
    exact .refl _
  exact sameAnswers_of_sameGrants hgrants

end UploadService

namespace Http

open UploadService (SameAnswers overGrants sameAnswers_overGrants)

namespace Router

variable {first second : Deployment} {requestId user : String} {request : Request} {route : Route}

/-- What a route answers a user depends on the service's answers to him, and only if the route is
guarded. -/
theorem serve_congr (hsettings : first.settings = second.settings)
    (h : route.isGuarded = true → SameAnswers first.service second.service user) :
    serve first requestId user request route = serve second requestId user request route := by
  cases route with
  | databases => rw [serve, serve, (h rfl).choices]
  | forms => rfl
  | form segment => simp only [serve, (h rfl).formView]
  | validate segment => simp only [serve, (h rfl).validate]
  | health => rw [serve, serve, healthJson, healthJson, hsettings]
  | apiDocs => rfl

theorem serveMethod_congr (hsettings : first.settings = second.settings)
    (h : route.isGuarded = true → SameAnswers first.service second.service user) :
    serveMethod first requestId user request route =
      serveMethod second requestId user request route := by
  rw [serveMethod, serveMethod, serve_congr hsettings h]

theorem serveRoute_congr (hsettings : first.settings = second.settings)
    (huser : request.headers.remoteUser? = some user)
    (h : SameAnswers first.service second.service user) :
    serveRoute first requestId request route = serveRoute second requestId request route := by
  rw [serveRoute, serveRoute, huser]
  split
  next => exact serveMethod_congr hsettings fun _ => h
  next hunguarded => exact serveMethod_congr hsettings fun hguarded => absurd hguarded hunguarded

theorem reply_congr (hsettings : first.settings = second.settings)
    (huser : request.headers.remoteUser? = some user)
    (h : SameAnswers first.service second.service user) :
    reply first requestId request = reply second requestId request := by
  unfold reply
  split
  next => exact serveRoute_congr hsettings huser h
  next => rfl

end Router

/-- Deployments whose services answer a user alike send him the same answers to all requests. -/
theorem respond_congr {first second : Deployment} {user : String} {request : Request}
    (hsettings : first.settings = second.settings)
    (huser : request.headers.remoteUser? = some user)
    (h : SameAnswers first.service second.service user) (freshId : String) :
    respond first freshId request = respond second freshId request := by
  simp only [respond, Router.reply_congr hsettings huser h]

/-- Nobody sees the grants of another user: all answers to a user, and to all his requests, are the
same with any other list of grants in which the last one of his is the same, or of which none is. -/
theorem respond_eq_of_lastGrant?_eq {first second : List Permissions} {user : String}
    (h : lastGrant? first user = lastGrant? second user)
    (registry : Registry) (upload : UploadSettings) :
    SameAnswers (overGrants registry upload first) (overGrants registry upload second) user ∧
      ∀ (settings : Settings) (freshId : String) (request : Request),
        request.headers.remoteUser? = some user →
        respond ⟨settings, overGrants registry upload first⟩ freshId request =
          respond ⟨settings, overGrants registry upload second⟩ freshId request := by
  have hsame := sameAnswers_overGrants h registry upload
  exact ⟨hsame, fun settings freshId request huser => respond_congr (by rfl) huser hsame freshId⟩

/-- Grants that list the analyst twice, first with more than in the end, and someone else. -/
def crowdedGrants : List Permissions :=
  [{ Permissions.none "analyst" with allDatabases := true }, UploadService.analyst,
    { Permissions.none "curator" with allTables := true }]

def choicesRequest (user : String) : Request :=
  ⟨"GET", "/api/upload/databases", [("x-remote-user", user)], ""⟩

theorem respond_analyst_crowdedGrants :
    lastGrant? crowdedGrants "analyst" = lastGrant? [UploadService.analyst] "analyst" ∧
      (choicesRequest "analyst").headers.remoteUser? = some "analyst" ∧
      SameAnswers (overGrants (.connections [UploadService.warehouse]) .builtIn crowdedGrants)
        UploadService.warehouseService "analyst" ∧
      respond ⟨warehouseDeployment.settings,
          overGrants (.connections [UploadService.warehouse]) .builtIn crowdedGrants⟩ "fresh"
          (choicesRequest "analyst") =
        respond warehouseDeployment "fresh" (choicesRequest "analyst") := by
  have hlast : lastGrant? crowdedGrants "analyst" =
      lastGrant? [UploadService.analyst] "analyst" := by decide
  have huser : (choicesRequest "analyst").headers.remoteUser? = some "analyst" := by
    decide +kernel
  obtain ⟨hsame, hrespond⟩ := respond_eq_of_lastGrant?_eq hlast
    (.connections [UploadService.warehouse]) .builtIn
  exact ⟨hlast, huser, hsame, hrespond warehouseDeployment.settings "fresh" _ huser⟩

end Http

end UploadGate
