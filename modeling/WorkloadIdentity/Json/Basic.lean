import WorkloadIdentity.Number.Binary64

/-! Objects keep the order of their members and hold each name once; integers and doubles are
different numbers. -/

namespace WorkloadIdentity

inductive Json where
  | null
  | bool (b : Bool)
  | int (i : Int)
  | double (d : Binary64)
  | str (s : String)
  | arr (items : List Json)
  | obj (members : List (String × Json))
deriving Repr, Inhabited

namespace Json

mutual

/-- Equality of values, members in order. -/
def beq : Json → Json → Bool
  | null, null => true
  | bool a, bool b => a == b
  | int a, int b => a == b
  | double a, double b => a == b
  | str a, str b => a == b
  | arr a, arr b => beqItems a b
  | obj a, obj b => beqMembers a b
  | _, _ => false

def beqItems : List Json → List Json → Bool
  | [], [] => true
  | a :: as, b :: bs => beq a b && beqItems as bs
  | _, _ => false

def beqMembers : List (String × Json) → List (String × Json) → Bool
  | [], [] => true
  | (k, a) :: as, (l, b) :: bs => k == l && beq a b && beqMembers as bs
  | _, _ => false

end

mutual

theorem eq_of_beq : ∀ a b : Json, beq a b = true → a = b
  | null, b, h => by cases b <;> simp_all [beq]
  | bool x, b, h => by cases b <;> simp_all [beq]
  | int x, b, h => by cases b <;> simp_all [beq]
  | double x, b, h => by cases b <;> simp_all [beq]
  | str x, b, h => by cases b <;> simp_all [beq]
  | arr xs, b, h => by
    cases b with
    | arr ys => rw [beq] at h; rw [eq_of_beqItems xs ys h]
    | _ => simp [beq] at h
  | obj xs, b, h => by
    cases b with
    | obj ys => rw [beq] at h; rw [eq_of_beqMembers xs ys h]
    | _ => simp [beq] at h

theorem eq_of_beqItems : ∀ as bs : List Json, beqItems as bs = true → as = bs
  | [], bs, h => by cases bs <;> simp_all [beqItems]
  | a :: as, bs, h => by
    cases bs with
    | nil => simp [beqItems] at h
    | cons b bs =>
      rw [beqItems, Bool.and_eq_true] at h
      rw [eq_of_beq a b h.1, eq_of_beqItems as bs h.2]

theorem eq_of_beqMembers : ∀ as bs : List (String × Json), beqMembers as bs = true → as = bs
  | [], bs, h => by cases bs <;> simp_all [beqMembers]
  | (k, a) :: as, bs, h => by
    cases bs with
    | nil => simp [beqMembers] at h
    | cons b bs =>
      obtain ⟨l, b⟩ := b
      rw [beqMembers, Bool.and_eq_true, Bool.and_eq_true] at h
      rw [eq_of_beq a b h.1.2, eq_of_beqMembers as bs h.2, beq_iff_eq.1 h.1.1]

end

mutual

theorem beq_self : ∀ a : Json, beq a a = true
  | null | bool _ | int _ | double _ | str _ => by simp [beq]
  | arr xs => by rw [beq]; exact beqItems_self xs
  | obj xs => by rw [beq]; exact beqMembers_self xs

theorem beqItems_self : ∀ as : List Json, beqItems as as = true
  | [] => rfl
  | a :: as => by rw [beqItems, beq_self a, beqItems_self as]; rfl

theorem beqMembers_self : ∀ as : List (String × Json), beqMembers as as = true
  | [] => rfl
  | (k, a) :: as => by rw [beqMembers, beq_self a, beqMembers_self as]; simp

end

instance : DecidableEq Json := fun a b =>
  if h : beq a b = true then isTrue (eq_of_beq a b h)
  else isFalse (fun e => h (e ▸ beq_self a))

/-- The member of a list of members with the given name. -/
def lookup (name : String) (members : List (String × Json)) : Option Json :=
  List.lookup name members

/-- A member of an object. -/
def get? (name : String) : Json → Option Json
  | obj members => lookup name members
  | _ => none

/-- Writes a member, at the place of the old one if there is one, else at the end. -/
def insertMember (name : String) (value : Json) : List (String × Json) → List (String × Json)
  | [] => [(name, value)]
  | (k, v) :: rest =>
    if k = name then (name, value) :: rest else (k, v) :: insertMember name value rest

def eraseMember (name : String) (members : List (String × Json)) : List (String × Json) :=
  members.filter (fun m => m.1 ≠ name)

/-- Writes a member of an object; other values stay as they are. -/
def insert (target : Json) (name : String) (value : Json) : Json :=
  match target with
  | obj members => obj (insertMember name value members)
  | other => other

/-- The object of the members in order, the last value of a repeated name winning. -/
def ofMembers (members : List (String × Json)) : Json :=
  obj (members.foldl (fun done m => insertMember m.1 m.2 done) [])

def str? : Json → Option String
  | str s => some s
  | _ => none

def isNull : Json → Bool
  | null => true
  | _ => false

/-- An optional member, left out when absent. -/
def optional (name : String) (value : Option Json) : List (String × Json) :=
  match value with
  | some v => [(name, v)]
  | none => []

def strings (items : List String) : Json := arr (items.map str)

mutual

/-- A merge patch: members of the patch replace, `null` removes, objects merge member by member,
and any other value replaces the whole. -/
def merge (target patch : Json) : Json :=
  match patch with
  | obj changes =>
    match target with
    | obj members => obj (mergeMembers members changes)
    | _ => obj (mergeMembers [] changes)
  | other => other

def mergeMembers (members : List (String × Json)) :
    List (String × Json) → List (String × Json)
  | [] => members
  | (name, change) :: rest =>
    match change with
    | null => mergeMembers (eraseMember name members) rest
    | _ => mergeMembers (insertMember name (merge ((lookup name members).getD null) change) members)
        rest

end

/-- The reference tokens of a pointer, `~1` standing for a slash and `~0` for a tilde. -/
def pointerTokens (pointer : String) : Option (List String) :=
  if pointer = "" then some []
  else if pointer.startsWith "/" then
    some (((pointer.drop 1).toString.splitOn "/").map
      (fun t => ((t.replace "~1" "/").replace "~0" "~")))
  else none

/-- An array index: decimal digits without a sign and without leading zeros. -/
def arrayIndex? (token : String) : Option Nat :=
  let cs := token.toList
  if cs.isEmpty || !cs.all Char.isDigit then none
  else if cs.head? = some '0' && cs.length ≠ 1 then none
  else token.toNat?

def follow (value : Json) : List String → Option Json
  | [] => some value
  | token :: rest =>
    match value with
    | obj members => (lookup token members).bind (fun v => follow v rest)
    | arr items => (arrayIndex? token).bind (fun i => items[i]?.bind (fun v => follow v rest))
    | _ => none

/-- The value that a pointer leads to. -/
def find? (value : Json) (pointer : String) : Option Json :=
  (pointerTokens pointer).bind (follow value)

end Json

end WorkloadIdentity
