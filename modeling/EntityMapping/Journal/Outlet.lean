import EntityMapping.Failure
import EntityMapping.Journal

/-!
# Where notes go

Notes from a threshold on are kept, and may be written to a file.  The threshold is a number or the
name of a level, without regard to letter case; an unknown name stands for the level of warnings.
The file is made when the journal is opened, and each note goes to its end as soon as it is taken,
after the time.
-/

namespace EntityMapping

open Text

/-- From which level on notes are kept.  A truth value counts as a number and stays as it is. -/
inductive Threshold where
  /-- A number. -/
  | number (n : Int)
  /-- A truth value. -/
  | truth (b : Bool)
deriving DecidableEq, Repr

/-- The least number of a level that is kept. -/
def Threshold.least : Threshold → Int
  | .number n => n
  | .truth b => boolInt b

/-- An open journal. -/
structure Outlet where
  /-- From which level on notes are kept. -/
  threshold : Threshold
  /-- The file that notes are written to, if there is one. -/
  file : Option Path
  /-- The time that stands before each note in the file. -/
  time : String

/-- The upper case of the characters that have a basic Latin letter in it; other characters stay. -/
def upperLatin (c : Char) : List Char :=
  if 'a' ≤ c ∧ c ≤ 'z' then [c.toUpper]
  else if c = 'ı' then ['I']
  else if c = 'ſ' then ['S']
  else if c = 'ß' then ['S', 'S']
  else if c = 'ﬀ' then ['F', 'F']
  else if c = 'ﬁ' then ['F', 'I']
  else if c = 'ﬂ' then ['F', 'L']
  else if c = 'ﬃ' then ['F', 'F', 'I']
  else if c = 'ﬄ' then ['F', 'F', 'L']
  else if c = 'ﬅ' ∨ c = 'ﬆ' then ['S', 'T']
  else [c]

/-- The numbers of the levels under their names. -/
def levelNumbers : List (String × Int) := [
  ("DEBUG", 10), ("INFO", 20), ("WARNING", 30), ("WARN", 30), ("ERROR", 40), ("CRITICAL", 50),
  ("FATAL", 50), ("NOTSET", 0)]

/-- The threshold that a name stands for.  Two names are taken by the form of a line and the styles
of such forms, which are no thresholds. -/
def namedThreshold (name : String) : Except Fault Int :=
  let key := String.ofList (name.toList.flatMap upperLatin)
  if key = "BASIC_FORMAT" then .error (.notLevel name)
  else if key = "_STYLES" then .error (.levelKind key)
  else .ok ((levelNumbers.lookup key).getD Level.warning.number)

/-- The threshold that a value stands for. -/
def thresholdOf : Value → Except Fault Threshold
  | .text s => (namedThreshold s).map .number
  | .int n => .ok (.number n)
  | .bool b => .ok (.truth b)
  | v => .error (.levelKind v.shown)

/-- Names without `..`, which takes away the name before it. -/
def withoutUps (names : List String) : List String :=
  names.foldl (fun acc name => if name = ".." then acc.dropLast else acc ++ [name]) []

/-- The path of the file that notes are written to: from the root and without `..`. -/
def outletPath (here : Location) (name : String) : Path :=
  match Path.ofText name with
  | ⟨.here, parts⟩ => ⟨.root, withoutUps (here ++ parts)⟩
  | ⟨anchor, parts⟩ => ⟨anchor, withoutUps parts⟩

/-- Opens a journal: the open journal or the failure, and the files afterwards. -/
def openJournal (fs : FileSystem) (time : String) (level file : Value) :
    Except Failure Outlet × FileSystem :=
  match thresholdOf level with
  | .error e => (.error (.fault e), fs)
  | .ok threshold =>
    match file with
    | .null => (.ok ⟨threshold, none, time⟩, fs)
    | v =>
      let p := outletPath fs.here v.display
      match fs.append p [] with
      | .error e => (.error (.file e), fs)
      | .ok fs => (.ok ⟨threshold, some p, time⟩, fs)

/-- A note as a line, without the time. -/
def Note.line (n : Note) : String := n.level.name ++ " " ++ n.part.logger ++ ": " ++ n.message

namespace Outlet

/-- Whether an open journal keeps a note. -/
def keeps (o : Outlet) (n : Note) : Bool := o.threshold.least ≤ n.level.number

/-- What a note adds to the file; a note that cannot be encoded adds nothing. -/
def entry (o : Outlet) (n : Note) : Utf8.Octets :=
  (Utf8.encodeText? (o.time ++ " " ++ n.line ++ "\n").toList).getD []

/-- The files after a note is taken. -/
def take (o : Outlet) (fs : FileSystem) (n : Note) : FileSystem :=
  match o.file with
  | none => fs
  | some p => if o.keeps n then ((fs.append p (o.entry n)).toOption).getD fs else fs

theorem take_of_file_eq_none {o : Outlet} (fs : FileSystem) (n : Note) (h : o.file = none) :
    o.take fs n = fs := by
  simp [take, h]

end Outlet

end EntityMapping
