import WikiMarkup.Schema.Records

/-!
# Settings

The configuration of the service. Each setting has a default; the environment can set it, and the
caller's own value wins over both. The names of settings may be in any case.
-/

namespace WikiMarkup

/-- The settings of the service. -/
structure Settings where
  appName : Text := "BookWiki".toList
  appVersion : Text := "0.5.0".toList
  mediaUrl : Text := "/media".toList
  mediaDirectory : Text := "data/media".toList
  apiUrl : Text := "https://api.example.org".toList
  downloadUrl : Text := "/download".toList
  domain : Text := "example.org".toList
  profileUrl : Text := "https://forum.example.org/profile/".toList
  contentsThreshold : Int := 4000
deriving DecidableEq, Repr

namespace Settings

/-- Where the parts of the wiki are. -/
def site (settings : Settings) : Site where
  mediaUrl := settings.mediaUrl
  mediaDirectory := settings.mediaDirectory
  apiUrl := settings.apiUrl
  downloadUrl := settings.downloadUrl
  domain := settings.domain
  profileUrl := settings.profileUrl

/-- Reads a path, which is kept without doubled slashes, single dots and a slash at its end. -/
def pathReader : Reader Text := fun place value =>
  match value with
  | .text t => .ok (FilePath.ofText t).toText
  | _ => Reader.refuse .notPath place value

/-- The value of a setting: the caller's, or the one of the environment. Of several spellings of its
name the first counts for the caller and the last in the environment. -/
def given (own env : List (Text × Value)) (name : String) : List (Text × Value) :=
  let name := name.toList
  let isGiven (entry : Text × Value) : Bool := Text.lowerAscii entry.1 == name
  match (own.find? isGiven).or (env.reverse.find? isGiven) with
  | some (_, value) => [(name, value)]
  | none => []

/-- Reads the settings from the caller's values and those of the environment. -/
def read (own env : List (Text × Value)) : Checked Settings :=
  let default : Settings := {}
  let setting {α : Type} (name : String) (read : Reader α) (default : α) : Checked α :=
    Reader.Fields.read ⟨[], given own env name⟩ name read (some default)
  let text (name : String) (default : Text) : Checked Text := setting name Reader.text default
  (((((((((Checked.apply (.ok Settings.mk) (text "app_name" default.appName)).apply
    (text "app_version" default.appVersion)).apply
    (text "media_path" default.mediaUrl)).apply
    (setting "file_media_path" pathReader default.mediaDirectory)).apply
    (text "api_url" default.apiUrl)).apply
    (text "download_dir" default.downloadUrl)).apply
    (text "domain" default.domain)).apply
    (text "profile_url" default.profileUrl)).apply
    (setting "toc_threshold" Reader.integer default.contentsThreshold))

/-- Writes the settings. -/
def toValue (settings : Settings) : Value :=
  Value.ofFields
    [("app_name", .text settings.appName), ("app_version", .text settings.appVersion),
     ("media_path", .text settings.mediaUrl), ("file_media_path", .text settings.mediaDirectory),
     ("api_url", .text settings.apiUrl), ("download_dir", .text settings.downloadUrl),
     ("domain", .text settings.domain), ("profile_url", .text settings.profileUrl),
     ("toc_threshold", .int settings.contentsThreshold)]

end Settings
end WikiMarkup
