import ClusterAccess.Format

namespace ClusterAccess.Json

/-- A value as it stands in a text. An object keeps its members in their order; a key that cannot be
read is nothing. What no value has, such as a number out of range, an unpaired surrogate or nesting
that is too deep, is unreadable: it can be passed over but not read. -/
inductive Written where
  | null
  | bool (value : Bool)
  | num (value : Number)
  | str (value : String)
  | arr (items : List Written)
  | obj (members : List (Option String × Written))
  | unreadable
deriving Inhabited

namespace Written

mutual

/-- The value, if every part of it can be read. -/
def value? : Written → Option Json
  | .null => some .null
  | .bool b => some (.bool b)
  | .num n => some (.num n)
  | .str s => some (.str s)
  | .arr items => (values? items).map .arr
  | .obj members => (valueMembers? members).map .obj
  | .unreadable => none

def values? : List Written → Option (List Json)
  | [] => some []
  | w :: ws => do some ((← value? w) :: (← values? ws))

def valueMembers? : List (Option String × Written) → Option (List (String × Json))
  | [] => some []
  | (key, w) :: rest => do some ((← key, ← value? w) :: (← valueMembers? rest))

end

def text? : Written → Option String
  | .str s => some s
  | _ => none

def flag? : Written → Option Bool
  | .bool b => some b
  | _ => none

def integer? : Written → Option Int
  | .num (.whole n) => some n
  | _ => none

def items? : Written → Option (List Written)
  | .arr items => some items
  | _ => none

/-- The members of an object whose own keys can all be read. -/
def members? : Written → Option (List (String × Written))
  | .obj members => members.mapM fun m => m.1.map (·, m.2)
  | _ => none

/-- What is written is taken apart as values are, and only what is asked for need be readable. -/
def format : Format Written where
  isNull
    | .null => true
    | _ => false
  text? := text?
  flag? := flag?
  integer? := integer?
  items? := items?
  entries? := members?
  record? names needed
    | .arr items =>
      if items.length < needed || names.length < items.length then none
      else some ((List.range names.length).map (items[·]?))
    | w => w.members?.bind (Format.fields? names)
  word?
    | .obj [(some word, .null)] => some word
    | w => w.text?
  json? w := w.value?.map canonical

end Written

end ClusterAccess.Json
