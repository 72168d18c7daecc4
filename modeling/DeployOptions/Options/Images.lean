import DeployOptions.Options.Setting

/-! The images of every managed container. -/
namespace DeployOptions

structure ImageOptions where
  apicast : Value := .str ""
  zync : Value := .str ""
  zyncDatabase : Value := .str ""
deriving Repr

namespace ImageOptions

def fields (o : ImageOptions) : List (String × Setting) :=
  [("apicast_image", .plain o.apicast),
    ("zync_image", .plain o.zync),
    ("zync_database_postgresql_image", .plain o.zyncDatabase)]

def set (name : String) (v : Value) (o : ImageOptions) : ImageOptions :=
  match name with
  | "apicast_image" => { o with apicast := v }
  | "zync_image" => { o with zync := v }
  | "zync_database_postgresql_image" => { o with zyncDatabase := v }
  | _ => o

def required (o : ImageOptions) : List (String × Bool) :=
  [("apicast_image", o.apicast.isTruthy),
    ("zync_image", o.zync.isTruthy),
    ("zync_database_postgresql_image", o.zyncDatabase.isTruthy)]

def validate (o : ImageOptions) : Except Cause Unit := checkRequired "AmpImagesOptions" o.required

def summary (o : ImageOptions) : Summary :=
  [("APIcast", o.apicast), ("Zync", o.zync), ("Zync database", o.zyncDatabase)]

end ImageOptions

end DeployOptions
