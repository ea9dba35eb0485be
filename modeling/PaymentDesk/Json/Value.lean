/-!
# JSON values

Numbers are integers or binary64 numbers, texts are lists of characters, and an object is the list of its entries. A
document that was read has its entries in ascending order of their keys (`insertEntry`); `sortKeys` brings any document
into that order, at every depth, and changes nothing else. Keys are compared by code points.
-/

namespace PaymentDesk.Json

/-- A number: an integer, or a binary64 value. -/
inductive Number where
  | int (n : Int)
  | real (x : Float)
  deriving DecidableEq

/-- A JSON document. -/
inductive Value where
  | null
  | bool (b : Bool)
  | number (n : Number)
  | string (s : List Char)
  | array (items : List Value)
  | object (entries : List (List Char × Value))

/-- Puts an entry into a list of ascending keys, in place of an entry with the same key. -/
def insertEntry (k : List Char) (v : Value) : List (List Char × Value) → List (List Char × Value)
  | [] => [(k, v)]
  | (k', v') :: r =>
    if k < k' then (k, v) :: (k', v') :: r
    else if k = k' then (k, v) :: r
    else (k', v') :: insertEntry k v r

/-- The entries of an object in ascending order of their keys, the last of equal ones being kept. -/
def collect (entries : List (List Char × Value)) : List (List Char × Value) :=
  entries.foldl (fun es e => insertEntry e.1 e.2 es) []

/-! ## Sorted keys -/

mutual

/-- The same document with the entries of every object in ascending order of their keys. -/
def sortKeys : Value → Value
  | .array items => .array (sortItems items)
  | .object entries => .object (sortEntries entries [])
  | v => v

/-- `sortKeys` for each item. -/
def sortItems : List Value → List Value
  | [] => []
  | v :: r => sortKeys v :: sortItems r

/-- Puts the entries, their values sorted, one after the other into a list of ascending keys. -/
def sortEntries : List (List Char × Value) → List (List Char × Value) → List (List Char × Value)
  | [], sorted => sorted
  | (k, v) :: r, sorted => sortEntries r (insertEntry k (sortKeys v) sorted)

end

end PaymentDesk.Json
