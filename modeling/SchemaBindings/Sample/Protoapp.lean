import SchemaBindings.Schema.Basic

/-! A small application: tables of users, messages and audits, and an API of seven entries. -/

namespace SchemaBindings.Sample

open Json

def named (moduleName name : String) (parameters : List TypeExpr) : TypeExpr :=
  ⟨.reference ⟨moduleName, name⟩, parameters⟩

def prim (name : String) : TypeExpr := .primitive name
def param (name : String) : TypeExpr := .typeParam name
def vector (elem : TypeExpr) : TypeExpr := ⟨.primitive "Vector", [elem]⟩
def nullable (elem : TypeExpr) : TypeExpr := ⟨.primitive "Nullable", [elem]⟩
def token (elem : TypeExpr) : TypeExpr := ⟨.primitive "TypeToken", [elem]⟩

def field (name : String) (te : TypeExpr) : Field :=
  ⟨name, none, te, none, []⟩

def annotated (f : Field) (moduleName name : String) (value : Value) : Field :=
  { f with annotations := f.annotations ++ [⟨⟨moduleName, name⟩, value⟩] }

def documented (f : Field) (text : String) : Field :=
  annotated f "sys.annotations" "Doc" (.string text)

def entry (name : String) (te : TypeExpr) (path : String) (security : Value) : Field :=
  { field name te with
    default := some (.object [("path", .string path), ("security", security)]) }

def struct (name : String) (fields : List Field) : Decl :=
  ⟨name, .struct [] fields, []⟩

def genericStruct (name : String) (params : List String) (fields : List Field) : Decl :=
  ⟨name, .struct params fields, []⟩

def enumeration (name : String) (variants : List String) : Decl :=
  ⟨name, .union [] (variants.map fun v => field v (prim "Void")), []⟩

def typeAlias (name : String) (params : List String) (te : TypeExpr) : Decl :=
  ⟨name, .typeAlias params te, []⟩

def customNewtype (name : String) (params : List String) (te : TypeExpr) (rustName : String) :
    Decl :=
  ⟨name, .newtype params te none,
    [⟨⟨"adlc.config.rust", "RustCustomType"⟩,
      .object [("generateOrigADLType", .string ""), ("helpers", .string ""),
        ("rustname", .string rustName)]⟩]⟩

def table (d : Decl) (settings : List (String × Value)) : Decl :=
  { d with annotations := [⟨⟨"common.db", "DbTable"⟩, .object settings⟩] }

def moduleOf (name : String) (decls : List Decl) : Module :=
  ⟨name, [], decls.map fun d => (d.name, d), []⟩

def sysTypes : Module :=
  moduleOf "sys.types"
    [⟨"Maybe", .union ["T"] [field "nothing" (prim "Void"), field "just" (param "T")], []⟩]

def common : Module :=
  moduleOf "common"
    [customNewtype "Instant" [] (prim "Int64") "\x7b\x7bSTDLIBMODULE\x7d\x7d::Instant"]

def commonDb : Module :=
  moduleOf "common.db"
    [customNewtype "DbKey" ["T"] (prim "String") "crate::adl::custom::DbKey",
     genericStruct "WithId" ["I", "T"] [field "id" (param "I"), field "value" (param "T")]]

def httpFields : List Field :=
  [field "path" (prim "String"), field "security" (named "common.http" "HttpSecurity" [])]

def commonHttp : Module :=
  moduleOf "common.http"
    [genericStruct "HttpPost" ["I", "O"]
      (httpFields ++ [field "reqType" (token (param "I")), field "respType" (token (param "O"))]),
     genericStruct "HttpGet" ["O"] (httpFields ++ [field "respType" (token (param "O"))]),
     ⟨"HttpSecurity", .union []
       [field "public" (prim "Void"), field "token" (prim "Void"),
        field "tokenWithRole" (prim "String")], []⟩,
     struct "Unit" []]

def keyOf (name : String) : TypeExpr :=
  named "common.db" "DbKey" [named "protoapp.db" name []]

def instant : TypeExpr := named "common" "Instant" []
def appUserId : TypeExpr := named "protoapp.db" "AppUserId" []

def protoappDb : Module :=
  moduleOf "protoapp.db"
    [typeAlias "AppUserId" [] (keyOf "AppUser"),
     table (struct "AppUser"
       [field "fullname" (prim "String"), field "email" (prim "String"),
        field "is_admin" (prim "Bool"), field "hashed_password" (prim "String")])
       [("withIdPrimaryKey", .bool true)],
     typeAlias "MessageId" [] (keyOf "Message"),
     table (struct "Message"
       [field "posted_at" instant, field "posted_by" appUserId, field "message" (prim "String")])
       [("withIdPrimaryKey", .bool true)],
     enumeration "UserRole" ["user", "admin"],
     typeAlias "IntList" [] (vector (prim "Int32"))]

def protoappOps : Module :=
  moduleOf "protoapp.ops"
    [enumeration "AuditKind" ["login", "logout", "post"],
     table (struct "AuditEvent"
       [annotated (field "id" (prim "String")) "common.db" "DbPrimaryKey" .null,
        annotated (field "at" instant) "common.db" "DbColumnName" (.string "occurred_at"),
        field "actor" (nullable appUserId),
        field "kind" (named "protoapp.ops" "AuditKind" []),
        field "role" (named "protoapp.db" "UserRole" []),
        field "detail" (named "sys.types" "Maybe" [prim "Json"]),
        field "tags" (vector (prim "String"))])
       [("tableName", .string "audit_log")]]

def ui (name : String) (parameters : List TypeExpr) : TypeExpr :=
  named "protoapp.apis.ui" name parameters

def unit : TypeExpr := named "common.http" "Unit" []

def post (request response : TypeExpr) : TypeExpr :=
  named "common.http" "HttpPost" [request, response]

def get (response : TypeExpr) : TypeExpr :=
  named "common.http" "HttpGet" [response]

def apiEntries : List Field :=
  [entry "healthy" (get (prim "Void")) "/" (.string "public"),
   documented (entry "login" (post (ui "LoginReq" []) (ui "LoginResp" [])) "/login"
     (.string "public")) "Login a user",
   documented (entry "logout" (post unit unit) "/logout" (.string "token")) "Logout",
   documented (entry "new_message"
     (post (ui "NewMessageReq" []) (named "protoapp.db" "MessageId" []))
     "/messages/new" (.string "token")) "Post a message to the noticeboard",
   documented (entry "recent_messages"
     (post (ui "RecentMessagesReq" []) (ui "Paginated" [named "protoapp.db" "Message" []]))
     "/messages/recent" (.string "token")) "Get recent noticeboard messages",
   documented (entry "who_am_i" (get (ui "UserWithId" [])) "/whoami" (.string "token"))
     "Gets info about the logged in user",
   entry "update_user"
     (ui "AdminReq" [named "common.db" "WithId" [appUserId, ui "UserDetails" []], unit])
     "/users/update" (.object [("tokenWithRole", .string "admin")])]

def userDetails : List Field :=
  [field "fullname" (prim "String"), field "email" (prim "String"),
   field "is_admin" (prim "Bool")]

def protoappUi : Module :=
  moduleOf "protoapp.apis.ui"
    [{ struct "ApiRequests" apiEntries with
       annotations := [⟨⟨"sys.annotations", "Doc"⟩,
         .string "\nAPI requests for the protoapp UI\n"⟩] },
     typeAlias "AdminReq" ["I", "O"] (post (param "I") (param "O")),
     struct "LoginReq" [field "email" (prim "String"), field "password" (prim "String")],
     struct "LoginResp" [field "access_jwt" (prim "String")],
     struct "NewMessageReq" [field "message" (prim "String")],
     struct "RecentMessagesReq" [field "offset" (prim "Int64"), field "count" (prim "Int64")],
     genericStruct "Paginated" ["T"]
       [field "items" (vector (param "T")), field "current_offset" (prim "Int64"),
        field "total_count" (prim "Int64")],
     struct "UserDetails" userDetails,
     struct "UserWithId" [field "id" appUserId, field "value" (ui "UserDetails" [])]]

def protoapp : Schema :=
  .ofModules [sysTypes, common, commonDb, commonHttp, protoappDb, protoappOps, protoappUi]

def replaceEntries (entries : List Field) (key : String) (d : Decl) : String × Decl :=
  match d.body with
  | .struct params _ =>
    if key = "ApiRequests" then (key, { d with body := .struct params entries }) else (key, d)
  | _ => (key, d)

/-- Puts other entries into the API struct, which keeps its annotations. -/
def withApiEntries (s : Schema) (entries : List Field) : Schema :=
  let m := (s.module? "protoapp.apis.ui").getD protoappUi
  s.insert { m with decls := m.decls.map fun (key, d) => replaceEntries entries key d }

end SchemaBindings.Sample
