import EntityMapping.Failure
import EntityMapping.Journal
import EntityMapping.Resource.Address
import EntityMapping.Text.Line

/-!
# Lists of lines

A list of lines comes from a file or from an address.  A file may start with a signature, and its
line ends are unified before it is cut into lines; a file that is not there gives no list, which is
no failure.  An address is asked once, and only if it names a scheme and a host.
-/

namespace EntityMapping

open Text

/-- What comes back when an address is asked. -/
inductive Reply where
  /-- An answer with its status and text. -/
  | answer (status : Int) (text : String)
  /-- Nothing, for too long. -/
  | timedOut
  /-- Nothing, since there is no connection. -/
  | notConnected (reason : String)
  /-- An error answer without a status. -/
  | noStatus
  /-- Some other failure. -/
  | failed (reason : String)
deriving DecidableEq, Repr

/-- Where a list of lines comes from. -/
inductive LineSource where
  /-- From nowhere; there is no list. -/
  | absent
  /-- From the file that a value names. -/
  | file (v : Value)
  /-- From the address that a value names. -/
  | address (v : Value)
  /-- From a file and an address, which cannot be. -/
  | both

/-- The source that a file and an address name; what counts as false names none. -/
def LineSource.ofValues (file address : Value) : LineSource :=
  match file.truthy, address.truthy with
  | true, true => .both
  | false, true => .address address
  | true, false => .file file
  | false, false => .absent

/-- The lines in a file, if it is there, and the notes taken. -/
def loadFileLines (fs : FileSystem) (p : Path) :
    Except Failure (Option (List String)) × List Note :=
  let refuse (e : ResourceError) : Except Failure (Option (List String)) × List Note :=
    (.error (.resource e), [⟨.error, .resources, e.message⟩])
  match fs.isFile p with
  | .error e => (.error (.file e), [])
  | .ok false => (.ok none, [⟨.warning, .resources, "Resource not found: " ++ p.text⟩])
  | .ok true =>
    match fs.read p with
    | .error e => refuse (.unreadableLines p e)
    | .ok octets =>
      match Utf8.decodeSigned octets with
      | .error e => refuse (.undecodableLines p e)
      | .ok s =>
        (.ok (some (linesOf (unifyNewlines (ofChars s)))),
          [⟨.info, .resources, "Loaded resource from " ++ p.text⟩])

/-- Whether the status of an answer says that it is an error. -/
def isErrorStatus (status : Int) : Bool := 400 ≤ status && status < 600

/-- The lines that a reply gives, and the notes taken. -/
def Reply.lines (address : String) (reply : Reply) : Except Failure (List String) × List Note :=
  let refuse (e : ResourceError) (message : String) : Except Failure (List String) × List Note :=
    (.error (.resource e), [⟨.error, .resources, message⟩])
  match reply with
  | .timedOut => refuse (.timeout address) (ResourceError.timeout address).message
  | .notConnected reason =>
    refuse (.connection address) ("Connection error for URL " ++ address ++ ": " ++ reason)
  | .noStatus => (.error (.fault (.noAttribute "NoneType" "status_code")), [])
  | .failed reason =>
    refuse (.request address reason) (ResourceError.request address reason).message
  | .answer status text =>
    if isErrorStatus status then
      refuse (.status status address) (ResourceError.status status address).message
    else
      (.ok (linesOf text.toList),
        [⟨.info, .resources, "Successfully loaded resource from " ++ address⟩])

/-- The lines at an address, and the notes taken; `ask` says what comes back from an address. -/
def loadAddressLines (ask : String → Reply) (address : Value) :
    Except Failure (List String) × List Note :=
  let start : Note :=
    ⟨.debug, .resources, "Attempting to load resource from URL: " ++ address.display⟩
  match address with
  | .text s =>
    match Address.isComplete s with
    | .error e => (.error (.fault e), [start])
    | .ok false =>
      (.error (.resource (.badAddress s)),
        [start, ⟨.error, .resources, "Invalid URL format: " ++ s⟩])
    | .ok true =>
      let (result, notes) := (ask s).lines s
      (result, start :: notes)
  | v => (.error (.fault (.noAttribute v.kind "decode")), [start])

/-- The lines that a source gives, if there are any, and the notes taken. -/
def loadLines (fs : FileSystem) (ask : String → Reply) :
    LineSource → Except Failure (Option (List String)) × List Note
  | .absent => (.ok none, [])
  | .both =>
    (.error (.resource .twoSources), [⟨.error, .resources, "Both file_path and url provided"⟩])
  | .address v =>
    let (result, notes) := loadAddressLines ask v
    (result.map some, notes)
  | .file v =>
    match v.toPath with
    | .ok p => loadFileLines fs p
    | .error e => (.error (.fault e), [])

/-- The addresses that are asked for a source. -/
def LineSource.asked : LineSource → List String
  | .address (.text s) =>
    match Address.isComplete s with
    | .ok true => [s]
    | _ => []
  | _ => []

end EntityMapping
