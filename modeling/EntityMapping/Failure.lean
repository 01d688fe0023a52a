import EntityMapping.Files.Tree
import EntityMapping.Template.Flaw
import EntityMapping.Value.Fault
import EntityMapping.Value.Printer

/-!
# Failures

Everything that can keep the program from its result, sorted by the part that gives up: the causes
are constructors, and each type has one function with their texts.  `Failure` joins them.
-/

namespace EntityMapping

open Text

/-- Why settings could not be read or written. -/
inductive SettingsError where
  /-- The settings file is not there. -/
  | notFound (path : Path)
  /-- The name of the settings file does not end as it should. -/
  | notJson (path : Path)
  /-- The settings file is no document. -/
  | malformed (path : Path) (problem : String)
  /-- The settings file cannot be read. -/
  | unreadable (path : Path) (error : FileError)
  /-- The settings file holds something else than an object. -/
  | notObject (path : Path)
  /-- The settings file cannot be written. -/
  | unwritable (path : Path) (error : FileError)

/-- The text of a settings error. -/
def SettingsError.message : SettingsError → String
  | .notFound path => "Configuration file not found: " ++ path.text
  | .notJson path => "Configuration file must be JSON: " ++ path.text
  | .malformed path problem =>
    "Invalid JSON in configuration file " ++ path.text ++ ": " ++ problem
  | .unreadable path error =>
    "Failed to load configuration file " ++ path.text ++ ": " ++ error.message
  | .notObject path => "Configuration file must contain a JSON object: " ++ path.text
  | .unwritable path error =>
    "Failed to save configuration to " ++ path.text ++ ": " ++ error.message

/-- Why a manifest does not have the expected structure. -/
inductive ManifestError where
  /-- The manifest is no object. -/
  | notObject
  /-- The types or the declarations are no list. -/
  | notLists
  /-- An entry's field should be a list. -/
  | fieldNotList (field : String) (owner : Value) (kind : String)
  /-- The arguments of an attribute are no list, or its named ones no object. -/
  | badArguments (attributeName : String)
  /-- A property entry is no object with a name. -/
  | badProperty (entry : Value)
  /-- A type entry is no object with a name. -/
  | badType (entry : Value)
  /-- A parameter entry is no object. -/
  | badParameter (entry : Value)
  /-- A declaration entry is no object with a name. -/
  | badDeclaration (entry : Value)

/-- The text of a manifest error. -/
def ManifestError.message : ManifestError → String
  | .notObject => "Manifest must be a JSON object"
  | .notLists => "Manifest 'types' and 'declarations' must be lists"
  | .fieldNotList field owner kind =>
    "'" ++ field ++ "' of " ++ owner.shown ++ " must be a list, got " ++ kind
  | .badArguments name => "Invalid arguments for attribute " ++ quotedText name
  | .badProperty entry => "Invalid property entry: " ++ entry.shown
  | .badType entry => "Invalid type entry: " ++ entry.shown
  | .badParameter entry => "Invalid parameter entry: " ++ entry.shown
  | .badDeclaration entry => "Invalid declaration entry: " ++ entry.shown

/-- Why a target is unknown or cannot be registered. -/
inductive RegistryError where
  /-- What should be registered generates nothing. -/
  | notGenerator (shown : String)
  /-- An alias is the name of a target. -/
  | aliasIsTarget (name : String)
  /-- An alias belongs to another target. -/
  | aliasTaken (name owner : String)
  /-- Nothing is registered under a name. -/
  | unknownTarget (name : String) (available : List String)
  /-- A generator cannot be made from this kind of settings. -/
  | settingsKind (kind : String)
  /-- A generator could not be made. -/
  | notCreated (target reason : String)
deriving DecidableEq, Repr

/-- The text of a registry error. -/
def RegistryError.message : RegistryError → String
  | .notGenerator shown => shown ++ " is not a ConfigGenerator subclass"
  | .aliasIsTarget name => "Alias '" ++ name ++ "' is already a target name"
  | .aliasTaken name owner => "Alias '" ++ name ++ "' already points to '" ++ owner ++ "'"
  | .unknownTarget name available =>
    "Unknown target: " ++ name ++ ". Available: " ++ String.intercalate ", " available
  | .settingsKind kind => "Invalid config type: " ++ kind
  | .notCreated target reason => "Failed to create " ++ target ++ " generator: " ++ reason

/-- Why a generator gives up. -/
inductive GeneratorError where
  /-- The target has no form for a kind of directive. -/
  | unsupportedDirective (kind : String)
  /-- The generator refuses to be made. -/
  | refused (reason : String)
deriving DecidableEq, Repr

/-- The text of a generator error. -/
def GeneratorError.message : GeneratorError → String
  | .unsupportedDirective kind => "Unsupported directive: " ++ kind
  | .refused reason => reason

/-- What is wrong with a template. -/
inductive TemplateProblem where
  /-- There is no such template, and no folder to search. -/
  | absent (name : String)
  /-- The folder does not hold the template. -/
  | notInFolder (name folder : String)
  /-- A variable has no value. -/
  | undefinedName (name : String)
  /-- A value has no such part. -/
  | noPart (owner part : String)
  /-- A value has no element at a place. -/
  | noElement (owner : String) (place : Nat)
  /-- Nothing comes before the first turn of a loop. -/
  | noItemBefore
  /-- Nothing comes after the last turn of a loop. -/
  | noItemAfter
  /-- A filter is unknown when the template is prepared. -/
  | noFilter (name : String)
  /-- A filter is unknown when it is used. -/
  | noFilterFound (name : String)
  /-- A loop names its elements by the word for its turn. -/
  | turnWordTaken
  /-- The template cannot be read. -/
  | malformed (flaw : Template.Flaw)
deriving DecidableEq, Repr

/-- The text of a template problem. -/
def TemplateProblem.message : TemplateProblem → String
  | .absent name => name
  | .notInFolder name folder =>
    quotedText name ++ " not found in search path: " ++ quotedText folder
  | .undefinedName name => quotedText name ++ " is undefined"
  | .noPart owner part => quotedText owner ++ " has no attribute " ++ quotedText part
  | .noElement owner place => owner ++ " has no element " ++ toString place
  | .noItemBefore => "there is no previous item"
  | .noItemAfter => "there is no next item"
  | .noFilter name => "No filter named " ++ quotedText name ++ "."
  | .noFilterFound name => "No filter named " ++ quotedText name ++ " found."
  | .turnWordTaken => "Can't assign to special loop variable in for-loop"
  | .malformed flaw => flaw.message

/-- Why a template could not be rendered. -/
structure TemplateError where
  /-- The name of the template. -/
  template : String
  /-- What is wrong with it. -/
  problem : TemplateProblem
deriving DecidableEq, Repr

/-- The text of a template error. -/
def TemplateError.message (e : TemplateError) : String :=
  "Failed to render template " ++ e.template ++ ": " ++ e.problem.message

/-- Why an input could not be loaded. -/
inductive ResourceError where
  /-- A document file is no document. -/
  | malformed (path : Path) (problem : String)
  /-- A document file cannot be read. -/
  | unreadable (path : Path) (error : FileError)
  /-- A file of lines cannot be read. -/
  | unreadableLines (path : Path) (error : FileError)
  /-- A file of lines is no text. -/
  | undecodableLines (path : Path) (fault : Utf8.Fault)
  /-- Both a file and an address are given. -/
  | twoSources
  /-- An address lacks a scheme or a host. -/
  | badAddress (address : String)
  /-- There was no answer in time. -/
  | timeout (address : String)
  /-- There was no connection. -/
  | connection (address : String)
  /-- The answer is an error. -/
  | status (code : Int) (address : String)
  /-- The request failed otherwise. -/
  | request (address reason : String)

/-- The text of a resource error. -/
def ResourceError.message : ResourceError → String
  | .malformed path problem => "Invalid JSON in file " ++ path.text ++ ": " ++ problem
  | .unreadable path error => "Error reading file " ++ path.text ++ ": " ++ error.message
  | .unreadableLines path error => "Error reading resource " ++ path.text ++ ": " ++ error.message
  | .undecodableLines path fault => "Error reading resource " ++ path.text ++ ": " ++ fault.message
  | .twoSources => "Cannot specify both file_path and url"
  | .badAddress address => "Invalid URL: " ++ address
  | .timeout address => "Request timeout for URL: " ++ address
  | .connection address => "Connection error for URL: " ++ address
  | .status code address => "HTTP error " ++ Decimal.intText code ++ " for URL: " ++ address
  | .request address reason => "Request error for URL " ++ address ++ ": " ++ reason

/-- Why a command gives up. -/
inductive CommandError where
  /-- The settings hold a value of the wrong kind. -/
  | badSettings (fault : Fault)
  /-- The generation run failed. -/
  | runFailed (reason : String)
  /-- The output folder cannot be made. -/
  | noFolder (path : Path) (error : FileError)
  /-- An artifact cannot be written. -/
  | unwritable (path : Path) (error : FileError)

/-- The text of a command error. -/
def CommandError.message : CommandError → String
  | .badSettings fault => "Invalid configuration: " ++ fault.message
  | .runFailed reason => reason
  | .noFolder path error =>
    "Cannot create output directory " ++ path.text ++ ": " ++ error.message
  | .unwritable path error => "Cannot write " ++ path.text ++ ": " ++ error.message

/-- Everything that can keep the program from its result. -/
inductive Failure where
  /-- A value was unfit for its use. -/
  | fault (e : Fault)
  /-- A document or a template is no text. -/
  | undecodable (e : Utf8.Fault)
  /-- A text holds half of a pair alone, which no file can. -/
  | unencodable
  /-- An operation on a path failed. -/
  | file (e : FileError)
  /-- An input file is not there. -/
  | missingFile (path : Path)
  /-- The settings gave up. -/
  | settings (e : SettingsError)
  /-- The manifest gave up. -/
  | manifest (e : ManifestError)
  /-- The registry gave up. -/
  | registry (e : RegistryError)
  /-- The generator gave up. -/
  | generator (e : GeneratorError)
  /-- A template gave up. -/
  | template (e : TemplateError)
  /-- A resource gave up. -/
  | resource (e : ResourceError)
  /-- A command gave up. -/
  | command (e : CommandError)

/-- The text of a failure. -/
def Failure.message : Failure → String
  | .fault e => e.message
  | .undecodable e => e.message
  | .unencodable => "surrogates not allowed"
  | .file e => e.message
  | .missingFile path => "File not found: " ++ path.text
  | .settings e => e.message
  | .manifest e => e.message
  | .registry e => e.message
  | .generator e => e.message
  | .template e => e.message
  | .resource e => e.message
  | .command e => e.message

/-- Whether a failure is one that a user can mend, and is reported. -/
def Failure.isReported : Failure → Bool
  | .command _ | .settings _ | .manifest _ | .registry _ | .resource _ | .missingFile _ => true
  | .file (.system .notFound _) => true
  | _ => false

instance : MonadLift (Except Fault) (Except Failure) := ⟨Except.mapError .fault⟩

instance : MonadLift (Except FileError) (Except Failure) := ⟨Except.mapError .file⟩

instance : MonadLift (Except SettingsError) (Except Failure) := ⟨Except.mapError .settings⟩

instance : MonadLift (Except ManifestError) (Except Failure) := ⟨Except.mapError .manifest⟩

instance : MonadLift (Except RegistryError) (Except Failure) := ⟨Except.mapError .registry⟩

instance : MonadLift (Except GeneratorError) (Except Failure) := ⟨Except.mapError .generator⟩

instance : MonadLift (Except TemplateError) (Except Failure) := ⟨Except.mapError .template⟩

instance : MonadLift (Except ResourceError) (Except Failure) := ⟨Except.mapError .resource⟩

end EntityMapping
