import TypedQuery.Declaration.Json
import TypedQuery.Settings.Json
import TypedQuery.Json.Printer
import TypedQuery.Json.Reader
import TypedQuery.Key
import TypedQuery.Registry

/-!
# Documents

A document declares the parameters of a service in JSON.  It is a list of
declarations, or a record with such a list under `parameters` and, if it likes,
settings under `config`.

Declarations are completed by settings.  What the settings give to the rules is
put into each declaration before it is read, whatever its kind, except where the
declaration has a member of that name.  Each name has to be in normal form and
may be declared once.

A document as a whole gives a registry.  Its own settings are read first, then
the declarations one after the other, and last it is asked whether the settings
have a problem.  The first error counts.
-/

namespace TypedQuery

/-- Why a document does not give a registry. -/
inductive DocumentError where
  /-- The file cannot be read, for a reason that reading it gave. -/
  | unreadable (path reason : String)
  /-- The file is not JSON. -/
  | fileNotJson (path : String)
  /-- The text is not JSON. -/
  | notJson
  /-- The settings are not of their form. -/
  | badSettings (error : FormError)
  /-- The document has no list of declarations. -/
  | noDeclarations
  /-- A declaration is no record. -/
  | notRecord (found : Json)
  /-- A declaration is not of its form. -/
  | badDeclaration (error : FormError)
  /-- A name is not in normal form. -/
  | badName (name normal : String)
  /-- A name is declared twice. -/
  | repeatedName (name : String)
  /-- The settings have problems. -/
  | conflictingSettings (problems : List Settings.Problem)
  deriving Repr

namespace DocumentError

/-- The wording of what is wrong with the form of a document. -/
def formMessage (detail : String) : String :=
  "invalid parameter definitions: " ++ detail

/-- The wording of a file that does not give a document. -/
def fileMessage (path detail : String) : String :=
  s!"failed to load config from '{path}': {detail}"

/-- The wording of an error.  How a text fails to be JSON is worded by `syntaxFault`. -/
def message (syntaxFault : String) : DocumentError → String
  | unreadable path reason => fileMessage path reason
  | fileNotJson path => fileMessage path ("Invalid JSON: " ++ syntaxFault)
  | notJson => formMessage syntaxFault
  | badSettings error => formMessage ("invalid config: " ++ error.message)
  | noDeclarations =>
    formMessage "expected an array of parameters or an object with a \"parameters\" array"
  | notRecord found =>
    formMessage ("parameter definition must be an object, found " ++ found.compact)
  | badDeclaration error => formMessage error.message
  | badName name normal => s!"parameter name '{name}' is not sanitized (expected '{normal}')"
  | repeatedName name => s!"duplicate parameter definition '{name}'"
  | conflictingSettings problems =>
    "invalid parser configuration: " ++ "; ".intercalate (problems.map Settings.Problem.message)

end DocumentError

/-! ## Declarations -/

namespace Document

/-- The list of declarations in a document. -/
def entries : Json → Except DocumentError (List Json)
  | .list items => .ok items
  | document =>
    match document.member? "parameters" with
    | some (.list items) => .ok items
    | _ => .error .noDeclarations

/-- The members that settings give to declarations. -/
def defaults (s : Settings) : List (String × Json) :=
  [ ("list_separator", toJson s.listSeparator),
    ("range_separator", toJson s.rangeSeparator),
    ("sort_modifier", toJson s.sortModifier),
    ("wildcard", toJson s.wildcard),
    ("min_length", toJson s.minLength),
    ("max_length", toJson s.maxLength) ]

/-- The members of a declaration, completed by settings. -/
def completed (s : Settings) (members : List (String × Json)) : List (String × Json) :=
  Json.addMembers (defaults s) members

/-- A declaration of a document. -/
def declaration (s : Settings) : Json → Except DocumentError Declaration
  | .record members => (ofJson (.record (completed s members))).mapError .badDeclaration
  | found => .error (.notRecord found)

/-- The declaration of an entry, if it may follow declarations of some names. -/
def nextDeclaration (s : Settings) (taken : List String) (entry : Json) :
    Except DocumentError Declaration := do
  let d ← declaration s entry
  let normal := Key.normalize d.name
  if normal ≠ d.name then throw (.badName d.name normal)
  if d.name ∈ taken then throw (.repeatedName d.name)
  return d

/-- The declarations of entries, if they may follow declarations of some names. -/
def declarationsAfter (s : Settings) (taken : List String) :
    List Json → Except DocumentError (List Declaration)
  | [] => .ok []
  | entry :: rest => do
    let d ← nextDeclaration s taken entry
    return d :: (← declarationsAfter s (d.name :: taken) rest)

/-- The declarations of a document, on top of some settings. -/
def declarations (s : Settings) (document : Json) : Except DocumentError (List Declaration) := do
  declarationsAfter s [] (← entries document)

/-- The declarations in a text. -/
def declarationsOfText (s : Settings) (text : String) : Except DocumentError (List Declaration) :=
  match Json.ofText? text with
  | some document => declarations s document
  | none => .error .notJson

/-- The declarations in a file.  Reading the file has given its text or a reason why there
is none. -/
def declarationsOfFile (s : Settings) (path : String) (contents : Except String String) :
    Except DocumentError (List Declaration) :=
  match contents with
  | .ok text => declarationsOfText s text
  | .error reason => .error (.unreadable path reason)

/-- The settings of a document, which are the default settings if it has none of its
own. -/
def settings (document : Json) : Except DocumentError Settings :=
  match document.member? "config" with
  | some found => (Settings.ofJson found).mapError .badSettings
  | none => .ok .default

end Document

/-! ## Registries -/

namespace Registry

/-- The registry of some declarations, unless the settings have a problem. -/
def ofDeclarations (s : Settings) (ds : List Declaration) : Except DocumentError Registry :=
  if s.problems.isEmpty then .ok ((empty s).registerAll ds)
  else .error (.conflictingSettings s.problems)

/-- The registry of a document. -/
def ofDocument (document : Json) : Except DocumentError Registry := do
  let s ← Document.settings document
  ofDeclarations s (← Document.declarations s document)

/-- The registry of the document in a text. -/
def ofText (text : String) : Except DocumentError Registry :=
  match Json.ofText? text with
  | some document => ofDocument document
  | none => .error .notJson

/-- The registry of the document in a file.  Reading the file has given its text or a
reason why there is none. -/
def ofFile (path : String) (contents : Except String String) : Except DocumentError Registry :=
  match contents with
  | .error reason => .error (.unreadable path reason)
  | .ok text =>
    match Json.ofText? text with
    | some document => ofDocument document
    | none => .error (.fileNotJson path)

end Registry

end TypedQuery
