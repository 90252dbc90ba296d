/-! JSON documents. Objects keep their members as written; the canonical form sorts the
members by name and keeps the last of each name. -/

namespace BackendRegistrar

/-- A number is an integer of at most 64 bits, or a binary64 number given by its bits. -/
inductive Json.Number
  | integer (value : Int)
  | real (bits : UInt64)
deriving DecidableEq, Repr, Inhabited

inductive Json
  | null
  | bool (value : Bool)
  | number (value : Json.Number)
  | string (value : String)
  | array (items : List Json)
  | object (members : List (String × Json))
deriving Inhabited, Repr

namespace Json

abbrev Members := List (String × Json)

abbrev int (value : Int) : Json := .number (.integer value)

namespace Members

/-- Puts a member in its place among members sorted by name, over one of the same name. -/
def insert (name : String) (value : Json) : Members → Members
  | [] => [(name, value)]
  | (n, v) :: rest =>
    if name = n then (name, value) :: rest
    else if name < n then (name, value) :: (n, v) :: rest
    else (n, v) :: insert name value rest

def get? (members : Members) (name : String) : Option Json :=
  (members.find? fun m => m.1 = name).map Prod.snd

def erase (name : String) : Members → Members
  | [] => []
  | m :: rest => if m.1 = name then erase name rest else m :: erase name rest

@[simp] theorem get?_nil (name : String) : get? [] name = none := rfl

theorem get?_cons (m : String × Json) (rest : Members) (name : String) :
    get? (m :: rest) name = if m.1 = name then some m.2 else get? rest name := by
  by_cases h : m.1 = name <;> simp [get?, h]

theorem get?_insert (members : Members) (name other : String) (value : Json) :
    get? (insert name value members) other =
      if name = other then some value else get? members other := by
  induction members with
  | nil => simp [insert, get?_cons]
  | cons m rest ih =>
    obtain ⟨n, v⟩ := m
    simp only [insert]
    split
    · next h => subst h; by_cases h : name = other <;> simp [get?_cons, h]
    · split
      · simp [get?_cons]
      · by_cases h : name = other
        · subst h
          have hn : n ≠ name := fun e => by simp_all
          simp [get?_cons, ih, hn]
        · simp [get?_cons, ih, h]

theorem get?_erase (members : Members) (name other : String) :
    get? (erase name members) other = if other = name then none else get? members other := by
  induction members with
  | nil => simp [erase]
  | cons m rest ih =>
    by_cases hn : m.1 = name
    · by_cases h : other = name
      · subst h; simpa [erase, hn] using ih
      · have h' : ¬ name = other := fun e => h e.symm
        simp [erase, ih, get?_cons, hn, h, h']
    · by_cases h : m.1 = other
      · subst h; simp [erase, get?_cons, hn]
      · simp [erase, ih, get?_cons, hn, h]

end Members

/-- The members of an object, and none of anything else. -/
def members : Json → Members
  | .object ms => ms
  | _ => []

def get? (j : Json) (name : String) : Option Json := j.members.get? name

mutual

/-- The canonical form: in every object each name once, with its last value, in order. -/
def canonical : Json → Json
  | .array items => .array (canonicalItems items)
  | .object ms => .object (canonicalMembers [] ms)
  | j => j

def canonicalItems : List Json → List Json
  | [] => []
  | j :: rest => canonical j :: canonicalItems rest

def canonicalMembers (sorted : Members) : Members → Members
  | [] => sorted
  | (name, value) :: rest => canonicalMembers (sorted.insert name (canonical value)) rest

end

def ofMembers (ms : List (String × Option Json)) : Json :=
  .object (ms.filterMap fun m => m.2.map (m.1, ·))

/-! Merge patches: an object patch changes the members it names, removes those it names
with null, and goes into nested objects; any other patch replaces the document. -/

mutual

def mergePatch (target : Json) : Json → Json
  | .object patch => .object (mergeMembers target.members patch)
  | patch => patch

def mergeMembers (target : Members) : Members → Members
  | [] => target
  | (name, value) :: rest =>
    let others := target.erase name
    let merged := mergePatch ((target.get? name).getD .null) value
    mergeMembers (if value matches .null then others else others.insert name merged) rest

end

end Json

end BackendRegistrar
