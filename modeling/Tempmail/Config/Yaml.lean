import Mathlib.Data.List.Basic
import Mathlib.Data.Rat.Defs

set_option autoImplicit false

namespace Tempmail.Config

-- A mapping key: a string, or a scalar of another kind, which no lookup asks for.
inductive Key where
  | str (text : String)
  | other (text : String)
deriving DecidableEq, Repr

-- What yaml.safe_load and json.loads build; other is a date or binary.
inductive Value where
  | null
  | bool (value : Bool)
  | int (value : Int)
  | float (value : Rat)
  | str (text : String)
  | list (items : List Value)
  | map (entries : List (Key × Value))
  | other (text : String)

inductive Raised where
  | osError
  | yamlError
  | unicodeDecodeError
  | attributeError
  | typeError
  | valueError (message : String)
deriving DecidableEq, Repr

namespace Value

def truthy : Value → Bool
  | .null => false
  | .bool value => value
  | .int value => value != 0
  | .float value => value != 0
  | .str text => text != ""
  | .list items => !items.isEmpty
  | .map entries => !entries.isEmpty
  | .other _ => true

def usable : Value → Bool
  | .map entries => !entries.isEmpty
  | _ => false

-- bool is an int in Python, and ints compare with floats.
def number : Value → Option Rat
  | .bool value => some (if value then 1 else 0)
  | .int value => some value
  | .float value => some value
  | _ => none

-- Python's ==.
mutual

def same : Value → Value → Bool
  | .null, .null => true
  | .bool value, right => right.number == some (if value then 1 else 0)
  | .int value, right => right.number == some (value : Rat)
  | .float value, right => right.number == some value
  | .str left, .str right => left == right
  | .list left, .list right => sameItems left right
  | .map left, .map right => left.length == right.length && sameEntries left right
  | .other left, .other right => left == right
  | _, _ => false

def sameItems : List Value → List Value → Bool
  | [], [] => true
  | left :: lefts, right :: rights => same left right && sameItems lefts rights
  | _, _ => false

def sameEntries : List (Key × Value) → List (Key × Value) → Bool
  | [], _ => true
  | (key, left) :: rest, entries =>
      (match entries.lookup key with
        | some right => same left right
        | none => false) && sameEntries rest entries

end

def get (value : Value) (key : String) (fallback : Value) : Except Raised Value :=
  match value with
  | .map entries => .ok ((entries.lookup (.str key)).getD fallback)
  | _ => .error .attributeError

-- mapping[key] = item: in place when the key is there, else at the end.
def put (key : String) (item : Value) (entries : List (Key × Value)) : List (Key × Value) :=
  if entries.any (fun entry => entry.1 == .str key) then
    entries.map (fun entry => if entry.1 == .str key then (entry.1, item) else entry)
  else entries ++ [(.str key, item)]

def setItem (value : Value) (key : String) (item : Value) : Except Raised Value :=
  match value with
  | .map entries => .ok (.map (put key item entries))
  | _ => .error .typeError

-- mapping.setdefault(outer, {})[inner] = item.
def setNested (value : Value) (outer inner : String) (item : Value) : Except Raised Value := do
  let nested ← value.get outer (.map [])
  let changed ← nested.setItem inner item
  value.setItem outer changed

def iterate : Value → Except Raised (List Value)
  | .str text => .ok (text.toList.map (fun c => .str (String.singleton c)))
  | .list items => .ok items
  | .map entries => .ok (entries.map (fun entry => match entry.1 with
      | .str text => .str text
      | .other text => .other text))
  | _ => .error .typeError

def member (item : Value) (items : List Value) : Bool := items.any item.same

def hasStar : Value → Except Raised Bool
  | .str text => .ok (text.toList.contains '*')
  | .list items => .ok (member (.str "*") items)
  | .map entries => .ok (entries.any (fun entry => entry.1 == .str "*"))
  | _ => .error .typeError

theorem put_usable (key : String) (item : Value) (entries : List (Key × Value)) : (put key item entries).isEmpty = false := by
  unfold put
  split
  · rename_i present
    cases entries with
    | nil => simp at present
    | cons entry rest => rfl
  · simp

theorem set_item_usable (value changed : Value) (key : String) (item : Value) (done : value.setItem key item = .ok changed) :
    changed.usable = true := by
  cases value with
  | map entries =>
      cases done
      simp [usable, put_usable]
  | _ => cases done

end Value

section Entries

theorem lookup_replaced (key : Key) (item : Value) (entries : List (Key × Value))
    (present : entries.any (fun entry => entry.1 == key) = true) :
    (entries.map (fun entry => if entry.1 == key then (entry.1, item) else entry)).lookup key = some item := by
  induction entries with
  | nil => cases present
  | cons entry rest ih =>
      obtain ⟨name, value⟩ := entry
      by_cases same : (name == key) = true
      · have found : (key == name) = true := BEq.comm.trans same
        simp only [List.map_cons, same, if_true, List.lookup_cons, found]
      · have missed : (key == name) = false := BEq.comm.trans (Bool.eq_false_iff.mpr same)
        have later : rest.any (fun entry => entry.1 == key) = true := by
          simpa only [List.any_cons, same, Bool.false_or] using present
        simp only [List.map_cons, same, Bool.false_eq_true, if_false, List.lookup_cons, missed]
        exact ih later

theorem lookup_kept (key other : Key) (item : Value) (entries : List (Key × Value)) (apart : other ≠ key) :
    (entries.map (fun entry => if entry.1 == key then (entry.1, item) else entry)).lookup other = entries.lookup other := by
  induction entries with
  | nil => rfl
  | cons entry rest ih =>
      obtain ⟨name, value⟩ := entry
      by_cases same : (name == key) = true
      · have missed : (other == name) = false := by
          rw [eq_of_beq same]
          simpa using apart
        simp only [List.map_cons, same, if_true, List.lookup_cons, missed]
        exact ih
      · simp only [List.map_cons, same, Bool.false_eq_true, if_false, List.lookup_cons]
        rw [ih]

theorem lookup_put_same (key : String) (item : Value) (entries : List (Key × Value)) :
    (Value.put key item entries).lookup (.str key) = some item := by
  rw [Value.put]
  split
  · exact lookup_replaced (.str key) item entries ‹_›
  · rename_i absent
    have missing : entries.lookup (.str key) = none := by
      rw [List.lookup_eq_none_iff]
      intro entry member
      have apart : ¬ (entry.1 == Key.str key) = true := fun same => absent (List.any_eq_true.mpr ⟨entry, member, same⟩)
      exact bne_iff_ne.mpr fun same => apart (beq_iff_eq.mpr same.symm)
    simp [List.lookup_append, missing]

theorem lookup_put_other (key other : String) (item : Value) (entries : List (Key × Value)) (apart : other ≠ key) :
    (Value.put key item entries).lookup (.str other) = entries.lookup (.str other) := by
  have distinct : (Key.str other == Key.str key) = false := by simpa using apart
  rw [Value.put]
  split
  · exact lookup_kept (.str key) (.str other) item entries (by simpa using apart)
  · simp [List.lookup_append, List.lookup_cons, distinct]

theorem set_item_get (value changed item fallback : Value) (key : String) (done : value.setItem key item = .ok changed) :
    changed.get key fallback = .ok item := by
  cases value with
  | map entries =>
      cases done
      simp only [Value.get, lookup_put_same, Option.getD_some]
  | _ => cases done

theorem set_item_frame (value changed item fallback : Value) (key other : String) (apart : other ≠ key)
    (done : value.setItem key item = .ok changed) : changed.get other fallback = value.get other fallback := by
  cases value with
  | map entries =>
      cases done
      simp only [Value.get, lookup_put_other key other item entries apart]
  | _ => cases done

theorem bind_ok {α β ε : Type} (first : Except ε α) (next : α → Except ε β) (result : β) (done : first >>= next = .ok result) :
    ∃ value, first = .ok value ∧ next value = .ok result := by
  cases first with
  | error failure => cases done
  | ok value => exact ⟨value, rfl, done⟩

theorem set_nested_parts (value changed item : Value) (outer inner : String)
    (done : value.setNested outer inner item = .ok changed) :
    ∃ nested filled, value.get outer (.map []) = .ok nested ∧ nested.setItem inner item = .ok filled ∧
      value.setItem outer filled = .ok changed := by
  obtain ⟨nested, present, rest⟩ := bind_ok _ _ _ done
  obtain ⟨filled, set, stored⟩ := bind_ok _ _ _ rest
  exact ⟨nested, filled, present, set, stored⟩

theorem set_nested_frame (value changed item fallback : Value) (outer inner other : String) (apart : other ≠ outer)
    (done : value.setNested outer inner item = .ok changed) : changed.get other fallback = value.get other fallback := by
  obtain ⟨nested, filled, -, -, stored⟩ := set_nested_parts value changed item outer inner done
  exact set_item_frame value changed filled fallback outer other apart stored

theorem set_nested_get (value changed item outerFallback fallback : Value) (outer inner : String)
    (done : value.setNested outer inner item = .ok changed) :
    (changed.get outer outerFallback >>= fun nested => nested.get inner fallback) = .ok item := by
  obtain ⟨nested, filled, -, set, stored⟩ := set_nested_parts value changed item outer inner done
  rw [set_item_get value changed filled outerFallback outer stored]
  exact set_item_get nested filled item fallback inner set

end Entries

-- PyYAML over the bytes of a file; neither function is part of the repository.
structure Yaml where
  safeDump : Value → List UInt8
  safeLoad : List UInt8 → Except Raised Value

def Yaml.Reads (yaml : Yaml) (config : Value) : Prop := yaml.safeLoad (yaml.safeDump config) = .ok config

section BlockStyle

def bytes (text : String) : List UInt8 := text.toList.map (fun c => c.toNat.toUInt8)

def dumpItem : Value → String
  | .str text => "- " ++ text ++ "\n"
  | _ => ""

def dumpEntry : Key × Value → String
  | (.str key, .list items) => key ++ ":\n" ++ String.join (items.map dumpItem)
  | _ => ""

def readChars (chars : List UInt8) : String := String.ofList (chars.map (fun byte => Char.ofNat byte.toNat))

def loadLine : List (Key × Value) → List UInt8 → Except Raised (List (Key × Value))
  | entries, [] => .ok entries
  | entries, 0x2d :: 0x20 :: word => match entries.getLast? with
      | some (key, .null) => .ok (entries.dropLast ++ [(key, .list [.str (readChars word)])])
      | some (key, .list items) => .ok (entries.dropLast ++ [(key, .list (items ++ [.str (readChars word)]))])
      | _ => .error .yamlError
  | entries, line => if line.getLast? = some 0x3a then .ok (entries ++ [(.str (readChars line.dropLast), .null)])
      else .error .yamlError

-- PyYAML on the block mappings of word lists that the runs below write.
def blockYaml : Yaml where
  safeDump
    | .map entries => bytes (String.join (entries.map dumpEntry))
    | _ => []
  safeLoad chars := if chars = [] then .ok .null else
    ((chars.splitOn 0x0a).foldlM loadLine []).map Value.map

def listing (domains : List String) : Value := .map [(.str "domains", .list (domains.map Value.str))]

def dumpScalar : Value → String
  | .str text => text
  | .bool value => if value then "true" else "false"
  | .int value => toString value
  | .map _ => "{}"
  | .list _ => "[]"
  | _ => "null"

def dumpNested : Key × Value → String
  | (.str key, item) => "  " ++ key ++ ": " ++ dumpScalar item ++ "\n"
  | _ => ""

-- One top-level entry: a list of words, a section of scalars, or a scalar.
def dumpSection : Key × Value → String
  | (.str key, .list (first :: rest)) => key ++ ":\n" ++ String.join ((first :: rest).map dumpItem)
  | (.str key, .map (first :: rest)) => key ++ ":\n" ++ String.join ((first :: rest).map dumpNested)
  | (.str key, item) => key ++ ": " ++ dumpScalar item ++ "\n"
  | _ => ""

def blockDump : Value → List UInt8
  | .map entries => bytes (String.join (entries.map dumpSection))
  | _ => []

theorem joined_chars (start : String) (texts : List String) :
    (texts.foldl (fun text next => text ++ next) start).toList = start.toList ++ texts.flatMap String.toList := by
  induction texts generalizing start with
  | nil => simp
  | cons text rest ih => simp [ih, String.toList_append]

theorem block_dump_map (entries : List (Key × Value)) :
    blockDump (.map entries) = entries.flatMap (fun entry => bytes (dumpSection entry)) := by
  rw [blockDump, bytes, String.join, joined_chars]
  simp [List.map_flatMap, List.flatMap_map, bytes]

theorem block_dump_apart (front tail : List (Key × Value)) (left right : Key × Value)
    (apart : bytes (dumpSection left) ≠ bytes (dumpSection right)) :
    blockDump (.map (front ++ left :: tail)) ≠ blockDump (.map (front ++ right :: tail)) := by
  intro same
  simp only [block_dump_map, List.flatMap_append, List.flatMap_cons] at same
  exact apart (List.append_cancel_right (List.append_cancel_left same))

-- PyYAML on the documents listed: what it writes for one of them it reads back
-- as that one.
def documentYaml (documents : List Value) : Yaml where
  safeDump := blockDump
  safeLoad content := match documents.find? (fun document => blockDump document == content) with
    | some document => .ok document
    | none => .error .yamlError

theorem document_reads (documents : List Value)
    (distinct : documents.Pairwise (fun left right => blockDump left ≠ blockDump right))
    (document : Value) (member : document ∈ documents) : (documentYaml documents).Reads document := by
  have found : documents.find? (fun other => blockDump other == blockDump document) = some document := by
    induction documents with
    | nil => cases member
    | cons first rest ih =>
        rw [List.pairwise_cons] at distinct
        rcases List.mem_cons.mp member with here | later
        · simp only [List.find?_cons, here, beq_self_eq_true]
        · have apart : (blockDump first == blockDump document) = false := by simpa using distinct.1 document later
          simp only [List.find?_cons, apart]
          exact ih distinct.2 later
  simp only [Yaml.Reads, documentYaml, found]

end BlockStyle

end Tempmail.Config
