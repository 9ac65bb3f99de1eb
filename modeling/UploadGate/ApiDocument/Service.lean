import UploadGate.ApiDocument.Basic

/-! # The interface of the service

The routes of the service as programs see them: where connections and forms are listed, where a
submission is validated, and where the service says that it is well.
-/

namespace UploadGate.ApiDocument

def kindParameter : Parameter := ⟨"kind", "path", "表单类型：csv / excel / columnar"⟩

def serviceOperations : List Operation :=
  [{ method := "get", path := "/api/upload/databases", name := "list_databases"
     summary := "当前用户可上传的数据库", tag := "upload"
     responses :=
      [(200, "可上传数据库列表", some "ApiResponse_Vec_DatabaseChoice"), (401, "未认证", none)] },
    { method := "get", path := "/api/upload/forms", name := "list_forms"
      summary := "上传表单列表", tag := "upload"
      responses := [(200, "表单列表", some "ApiResponse_Vec_FormSummary"), (401, "未认证", none)] },
    { method := "get", path := "/api/upload/forms/\x7bkind\x7d", name := "get_form"
      summary := "获取表单定义（含当前用户的数据库选项）", tag := "upload"
      parameters := [kindParameter]
      responses := [(200, "表单定义", none), (401, "未认证", none), (404, "表单不存在", none)] },
    { method := "post", path := "/api/upload/forms/\x7bkind\x7d/validate", name := "validate_form"
      summary := "校验表单提交", tag := "upload"
      parameters := [kindParameter]
      body := some "FormSubmission"
      responses :=
        [(200, "校验通过，返回类型化的字段值", none),
          (400, "校验失败，error.details.fields 给出每个字段的错误", none), (401, "未认证", none),
          (404, "表单不存在", none)] },
    { method := "get", path := "/api/health", name := "health_check"
      summary := "健康检查端点", tag := "health"
      responses := [(200, "服务运行正常", some "HealthResponse")] }]

/-- The envelope of data of a shape. -/
def envelope (name : String) (data : Shape) : Component :=
  ⟨name, "Standard API response wrapper.",
    [⟨"success", .flag, "Whether the request was successful.", true⟩,
      ⟨"data", .optional data, "Response data (present on success).", false⟩,
      ⟨"error", .optional (.named "ApiError"), "Error details (present on failure).", false⟩,
      ⟨"meta", .named "ResponseMeta", "Response metadata.", false⟩]⟩

def serviceComponents : List Component :=
  [⟨"ApiError", "API error details.",
      [⟨"code", .text,
          "Error code for client handling (e.g. \"VALIDATION_ERROR\", \"FORM_NOT_FOUND\").", true⟩,
        ⟨"message", .text, "Human-readable error message.", true⟩,
        ⟨"details", .anything, "Per-field messages for validation failures.", false⟩]⟩,
    envelope "ApiResponse_Vec_DatabaseChoice" (.list (.named "DatabaseChoice")),
    envelope "ApiResponse_Vec_FormSummary" (.list (.named "FormSummary")),
    ⟨"DatabaseChoice", "Option of a form's database field.",
      [⟨"id", .integer, "Connection identifier submitted by the form.", true⟩,
        ⟨"label", .text, "Connection display name.", true⟩]⟩,
    ⟨"FormSubmission", "A submitted form: raw text inputs plus the names of the uploaded files.",
      [⟨"fields", .table .text, "Raw field values keyed by field name.", false⟩,
        ⟨"files", .list (.named "UploadedFile"), "Uploaded files, each bound to a file field.",
          false⟩]⟩,
    ⟨"FormSummary", "Summary entry of the form listing.",
      [⟨"kind", .text, "", true⟩, ⟨"title", .text, "", true⟩]⟩,
    ⟨"HealthResponse", "健康检查响应",
      [⟨"status", .text, "服务状态", true⟩, ⟨"service", .text, "服务名称", true⟩,
        ⟨"version", .text, "服务版本", true⟩, ⟨"timestamp", .time, "当前时间戳", true⟩,
        ⟨"metadata_database", .flag, "是否配置了元数据库", true⟩]⟩,
    ⟨"ResponseMeta", "Response metadata.",
      [⟨"request_id", .optional .text, "Request ID for tracing.", false⟩,
        ⟨"timestamp", .time, "Response timestamp.", false⟩,
        ⟨"service", .optional .text, "Service name that handled the request.", false⟩]⟩,
    ⟨"UploadedFile", "One uploaded file.",
      [⟨"field", .text, "Name of the file field the file belongs to.", true⟩,
        ⟨"filename", .text, "Original file name.", true⟩]⟩]

/-- The document of the service. -/
def service : ApiDocument where
  title := "上传服务 API"
  version := "0.1.0"
  description := "文件上传表单与可上传数据库微服务"
  tags := [⟨"upload", "文件上传端点"⟩, ⟨"health", "健康检查端点"⟩]
  operations := serviceOperations
  components := serviceComponents

end UploadGate.ApiDocument
