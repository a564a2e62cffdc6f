import ComplianceHistory.Filter.Document
import ComplianceHistory.Json.Halves
import ComplianceHistory.Text.Classes
import ComplianceHistory.Text.Lines

/-!
# Saved filters

Filters are saved in a text file that holds a list of objects.  Every operation reads the whole file, and
the ones that change something write it anew.  A file of blanks holds no filters.  What else the file may
hold is used as it is, up to the first value that is not of the right kind.

The file is emptied before its new content is written, and that is written part by part.  So an operation
that fails leaves the file as it was only if it fails before it writes; a value without a text would cost
what the file held.

The operations take stand-ins for the characters that they are.  Beside the text of the file it is known
whether stand-ins in it stand for halves of pairs, which matters where a filter is to be shown.
-/

namespace ComplianceHistory

open Value

/-- The text of the file, how often the clock was read, and whether the file holds halves of pairs. -/
structure SavedFilters where
  text : String
  readings : Nat
  halves : Bool
deriving DecidableEq, Repr

/-- Why an operation failed. -/
inductive SavedError where
  | corrupt (e : Json.ReadError)
  | document (e : DocumentError)
  | misuse (m : Misuse)
  | unwritable (e : Json.WriteError)
deriving DecidableEq, Repr

/-- The wording of a failure; a misused value has none. -/
def SavedError.message? : SavedError → Option String
  | corrupt e => some e.message
  | document e => some e.message
  | misuse _ => none
  | unwritable e => e.message?

namespace SavedFilters

/-- The text of a file with the given content. -/
def fileText (v : Value) : String := Json.write (.blanks 2) v

/-- The file as it is first made. -/
def initial (text : Option String) : SavedFilters :=
  let text := text.getD (fileText (.array []))
  ⟨text, 0, !Json.isPaired text.toList⟩

/-- What the file holds. -/
def content (s : SavedFilters) : Except SavedError Value :=
  match Text.trim (Text.plainLines s.text.toList) with
  | [] => .ok (.array [])
  | cs => (Json.read (String.ofList cs)).mapError .corrupt

/-- Writes the file anew.  It holds what was written of the value, also if that is not all. -/
def rewrite (s : SavedFilters) (v : Value) : Except SavedError Unit × SavedFilters :=
  let w := Json.written (.blanks 2) 0 v
  let outcome := match w.stop with
    | none => .ok ()
    | some e => .error (.unwritable e)
  (outcome, { s with text := String.ofList w.text })

/-- The items that one meets in a value: of a text its characters, of an object its names. -/
def itemsOf : Value → Except SavedError (List Value)
  | .array xs => .ok xs
  | .string t => .ok (t.toList.map fun c => .string c.toString)
  | .object fields => .ok (fields.map fun f => .string f.1)
  | _ => .error (.misuse .wrongKind)

/-- The members of an item. -/
def membersOf (item : Value) : Except SavedError (Entries Value) := item.fields.mapError .misuse

/-- Whether members are those of an entry with an identity; a missing identity is null. -/
def hasId (id : Value) (members : Entries Value) : Bool := same (member members "id") id

/-- The items before the first entry with an identity, the entry, and the items behind it. -/
def splitAt? (id : Value) : List Value →
    Except SavedError (Option (List Value × Entries Value × List Value))
  | [] => .ok none
  | item :: items => match membersOf item with
    | .error e => .error e
    | .ok members =>
      if hasId id members then .ok (some ([], members, items))
      else (splitAt? id items).map (Option.map fun (before, found, after) =>
        (item :: before, found, after))

/-- The first entry with an identity. -/
def get? (s : SavedFilters) (id : Value) : Except SavedError (Option (Entries Value)) := do
  let items ← itemsOf (← s.content)
  return (← splitAt? id items).map fun (_, found, _) => found

/-- The filter of the first entry with an identity. -/
def filter? (s : SavedFilters) (id : Value) : Except SavedError (Option Filter) := do
  match ← s.get? id with
  | none => return none
  | some members =>
    let f ← (Filter.ofValue (member members "filter")).mapError .document
    return some f

/-- The canonical document of a filter document. -/
def canonical (document : Value) : Except SavedError Value :=
  ((Filter.ofValue document).mapError .document).map Filter.toValue

/-- The members that an entry gets before it is dated: its filter in canonical form, and controls. -/
def prepared (entry : Entries Value) : Except SavedError (Entries Value) :=
  (canonical (member entry "filter")).map fun document =>
    let entry := entry.put "filter" document
    if entry.has "controls" then entry else entry.put "controls" (.array [])

/-- An entry with its dates. -/
def dated (now : Time.Instant) (entry : Entries Value) : Entries Value :=
  (entry.put "created_at" (.string now.text)).put "updated_at" (.string now.text)

variable (clock : Nat → Time.Instant)

/-- Appends an entry; what comes after the reading of the clock may still fail. -/
def create (s : SavedFilters) (entry : Entries Value) :
    Except SavedError (Entries Value) × SavedFilters :=
  match prepared entry with
  | .error e => (.error e, s)
  | .ok entry => match s.content with
    | .error e => (.error e, s)
    | .ok v =>
      let entry := dated (clock s.readings) entry
      let s := { s with readings := s.readings + 1 }
      match v with
      | .array items =>
        let (written, s) := s.rewrite (.array (items ++ [.object entry]))
        (written.map fun _ => entry, s)
      | _ => (.error (.misuse .noMembers), s)

/-- The updates of an entry, with a filter among them in canonical form. -/
def preparedUpdates (updates : Entries Value) : Except SavedError (Entries Value) :=
  match updates.get? "filter" with
  | none => .ok updates
  | some document => (canonical document).map fun d => updates.put "filter" d

/-- An entry with updates; its identity and the date of its creation stay. -/
def updated (now : Time.Instant) (updates members : Entries Value) : Entries Value :=
  let kept := updates.filter fun u => u.1 ≠ "id" && u.1 ≠ "created_at"
  (members.putAll kept).put "updated_at" (.string now.text)

/-- The updates to be made, and the first entry with an identity between the items around it. -/
def place (s : SavedFilters) (id : Value) (updates : Entries Value) :
    Except SavedError (Entries Value × Option (List Value × Entries Value × List Value)) := do
  let updates ← preparedUpdates updates
  let items ← itemsOf (← s.content)
  return (updates, ← splitAt? id items)

/-- Updates the first entry with an identity. -/
def update (s : SavedFilters) (id : Value) (updates : Entries Value) :
    Except SavedError (Option (Entries Value)) × SavedFilters :=
  match s.place id updates with
  | .error e => (.error e, s)
  | .ok (_, none) => (.ok none, s)
  | .ok (updates, some (before, members, after)) =>
    let members := updated (clock s.readings) updates members
    let s := { s with readings := s.readings + 1 }
    let (written, s) := s.rewrite (.array (before ++ .object members :: after))
    (written.map fun _ => some members, s)

/-- The items that are not entries with an identity. -/
def without (id : Value) : List Value → Except SavedError (List Value)
  | [] => .ok []
  | item :: items => match membersOf item with
    | .error e => .error e
    | .ok members => (without id items).map fun rest => if hasId id members then rest else item :: rest

/-- The items of the file, and those of them that are kept if an identity is deleted. -/
def keep (s : SavedFilters) (id : Value) : Except SavedError (List Value × List Value) := do
  let items ← itemsOf (← s.content)
  return (items, ← without id items)

/-- Deletes all entries with an identity, and tells whether there were any. -/
def delete (s : SavedFilters) (id : Value) : Except SavedError Bool × SavedFilters :=
  match s.keep id with
  | .error e => (.error e, s)
  | .ok (items, rest) =>
    if rest.length < items.length then
      let (written, s) := s.rewrite (.array rest)
      (written.map fun _ => true, s)
    else (.ok false, s)

/-! ### Requests with arguments of any kind -/

/-- An operation with its arguments. -/
inductive Request where
  | all
  | get (id : Value)
  | filter (id : Value)
  | create (entry : Value)
  | update (id updates : Value)
  | delete (id : Value)

/-- The outcome of an operation that does not fail. -/
inductive Answer where
  | content (v : Value)
  | entry (found : Option (Entries Value))
  | filter (found : Option Filter)
  | created (entry : Entries Value)
  | updated (found : Option (Entries Value))
  | deleted (any : Bool)

/-- Whether characters stand in a text one after the other. -/
def occurs (part : List Char) : List Char → Bool
  | [] => part.isEmpty
  | c :: cs => part.isPrefixOf (c :: cs) || occurs part cs

/-- Whether updates that are no object mention a filter: a text as a part of it, a list as an item. -/
def mentionsFilter : Value → Except SavedError Bool
  | .string t => .ok (occurs "filter".toList t.toList)
  | .array xs => .ok (xs.any (same (.string "filter")))
  | _ => .error (.misuse .wrongKind)

/-- What comes of updates that are no object: they fail unless there is nothing to update. -/
def refuseUpdates (s : SavedFilters) (id updates : Value) : Except SavedError (Option (Entries Value)) := do
  if ← mentionsFilter updates then throw (.misuse .wrongKind)
  match ← s.get? id with
  | none => return none
  | some _ => throw (.misuse .noMembers)

/-- Performs an operation. -/
def perform (s : SavedFilters) : Request → Except SavedError Answer × SavedFilters
  | .all => (s.content.map .content, s)
  | .get id => ((s.get? id).map .entry, s)
  | .filter id => ((s.filter? id).map .filter, s)
  | .create (.object entry) =>
    let (r, s) := s.create clock entry
    (r.map .created, s)
  | .create _ => (.error (.misuse .noMembers), s)
  | .update id (.object updates) =>
    let (r, s) := s.update clock id updates
    (r.map .updated, s)
  | .update id updates => ((s.refuseUpdates id updates).map .updated, s)
  | .delete id =>
    let (r, s) := s.delete id
    (r.map .deleted, s)

/-- Performs operations one after the other, and tells the outcome of each with the file behind it. -/
def run (s : SavedFilters) : List Request → List (Except SavedError Answer × SavedFilters)
  | [] => []
  | r :: rs => s.perform clock r :: run (s.perform clock r).2 rs

end SavedFilters

end ComplianceHistory
