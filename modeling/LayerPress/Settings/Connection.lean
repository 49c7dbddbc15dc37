import LayerPress.Text.Blank
import LayerPress.Text.Split

/-!
# Connection strings

How the spatial database is named to the loader: a list of settings, each a keyword, an equals
sign and a value. A value that is empty or holds blanks, quotes or backslashes is put between
single quotes with its quotes and backslashes escaped. A database URL is shown without its
query and with its password masked.
-/

namespace LayerPress

/-- Whether connections may try encryption first. -/
inductive SslMode where
  | disable
  | prefer
  deriving DecidableEq, Repr

/-- The name of a mode. -/
def SslMode.text : SslMode → String
  | disable => "disable"
  | prefer => "prefer"

/-- Where the spatial database is and how to log in. -/
structure SpatialSettings where
  host : String
  port : Nat
  database : String
  username : String
  password : String
  schema : String
  sslMode : SslMode
  deriving DecidableEq, Repr

namespace Connection

/-- The quote around a value. -/
def apostrophe : Char := Char.ofNat 39

/-- A value that stands without quotes. -/
def isBare (value : List Char) : Bool :=
  !value.isEmpty && value.all fun c => !(Text.isBlank c || c == apostrophe || c == '\\')

/-- A character between single quotes. -/
def escape (c : Char) : List Char :=
  if c == '\\' || c == apostrophe then ['\\', c] else [c]

/-- The written form of a value. -/
def valueChars (value : List Char) : List Char :=
  if isBare value then value else apostrophe :: (value.flatMap escape ++ [apostrophe])

/-- The written form of a value. -/
def value (s : String) : String :=
  String.ofList (valueChars s.toList)

/-- The settings up to the password. -/
def opening (s : SpatialSettings) : String :=
  "PG:host=" ++ value s.host ++ " port=" ++ toString s.port ++ " dbname=" ++ value s.database ++
    " user=" ++ value s.username ++ " password="

/-- What a masked password reads. -/
def mask : String := "****"

end Connection

/-- The data source the loader writes to. -/
def SpatialSettings.dataSource (s : SpatialSettings) : String :=
  Connection.opening s ++ Connection.value s.password

/-- The data source with its password masked. -/
def SpatialSettings.dataSourceMasked (s : SpatialSettings) : String :=
  Connection.opening s ++ Connection.mask

namespace Connection

/-- What stands before and after the first scheme separator. -/
def splitScheme : List Char → Option (List Char × List Char)
  | [] => none
  | ':' :: '/' :: '/' :: rest => some ([], rest)
  | c :: rest => (splitScheme rest).map fun (before, after) => (c :: before, after)

/-- A database URL without its query, the password before its last at-sign masked. There is no
such text when the last at-sign stands before the end of the first scheme separator. -/
def maskUrlChars (url : List Char) : Option (List Char) :=
  let base := url.takeWhile (· != '?')
  match Text.splitLast '@' base, splitScheme base with
  | some (before, after), some (scheme, _) =>
    if before.length < scheme.length + 3 then none
    else
      let login := before.drop (scheme.length + 3)
      match Text.splitFirst ':' login with
      | some (user, _) =>
        some (scheme ++ "://".toList ++ user ++ ':' :: mask.toList ++ '@' :: after)
      | none => some base
  | _, _ => some base

/-- A database URL as it may be shown. -/
def maskUrl (url : String) : Option String :=
  (maskUrlChars url.toList).map String.ofList

end Connection

end LayerPress
