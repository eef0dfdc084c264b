import WorkloadIdentity.Json.Printer

/-!
# The text of a value determines the value

The compact and the indented text are two layouts of one text, which differ in blanks alone. A text
without doubles can be read from its first character on: names and strings end at the first quote
that is not escaped, integers at the first character that is not a digit, and arrays and objects at
their closing bracket.

* `Layout.chars` writes a value in a layout; `compact_eq_chars` and `prettyAt_eq_chars` say
  that these are the two texts.
* `Layout.chars_cancel`: values whose texts begin alike are equal.
* `compact_inj` and `pretty_inj`: values with one text are equal.
-/

namespace WorkloadIdentity.Json

mutual

/-- All numbers are integers. -/
def IsIntegral : Json → Prop
  | obj members => MembersIntegral members
  | arr items => ItemsIntegral items
  | double _ => False
  | null => True
  | bool _ => True
  | int _ => True
  | str _ => True

def ItemsIntegral : List Json → Prop
  | [] => True
  | v :: rest => IsIntegral v ∧ ItemsIntegral rest

def MembersIntegral : List (String × Json) → Prop
  | [] => True
  | (_, v) :: rest => IsIntegral v ∧ MembersIntegral rest

end

/-! ## Strings -/

theorem hexDigit_inj : ∀ m < 16, ∀ n < 16, hexDigit m = hexDigit n → m = n := by decide

/-- The character that a backslash and this letter stand for. -/
def shortEscape (letter : Char) : Option Char :=
  if letter = '"' then some '"'
  else if letter = '\\' then some '\\'
  else if letter = 'b' then some (Char.ofNat 8)
  else if letter = 't' then some (Char.ofNat 9)
  else if letter = 'n' then some (Char.ofNat 10)
  else if letter = 'f' then some (Char.ofNat 12)
  else if letter = 'r' then some (Char.ofNat 13)
  else none

/-- The three ways in which a character is written inside quotes. -/
inductive Escapes (c : Char) : List Char → Prop
  | plain : c ≠ '"' → c ≠ '\\' → Escapes c [c]
  | short (letter : Char) : shortEscape letter = some c → Escapes c ['\\', letter]
  | code : c.toNat < 32 →
      Escapes c ['\\', 'u', '0', '0', hexDigit (c.toNat / 16), hexDigit (c.toNat % 16)]

theorem escapes_escapeChar (c : Char) : Escapes c (escapeChar c) := by
  have numbered (n : Nat) (h : c.toNat = n) : some (Char.ofNat n) = some c := by
    rw [← h, Char.ofNat_toNat]
  unfold escapeChar
  split
  · rename_i e
    subst e
    exact .short '"' rfl
  · rename_i notQuote
    split
    · rename_i e
      subst e
      exact .short '\\' rfl
    · rename_i notBackslash
      repeat' split
      · rename_i e; exact .short _ (numbered 8 e)
      · rename_i e; exact .short _ (numbered 9 e)
      · rename_i e; exact .short _ (numbered 10 e)
      · rename_i e; exact .short _ (numbered 12 e)
      · rename_i e; exact .short _ (numbered 13 e)
      · rename_i below; exact .code below
      · exact .plain notQuote notBackslash

/-- No escape is the beginning of another. -/
theorem Escapes.cancel {c d : Char} {xs ys r s : List Char} (hc : Escapes c xs)
    (hd : Escapes d ys) (h : xs ++ r = ys ++ s) : c = d ∧ r = s := by
  cases hc with
  | plain _ notBackslash =>
    cases hd with
    | plain => exact List.cons.inj h
    | short => exact absurd (List.cons.inj h).1 notBackslash
    | code => exact absurd (List.cons.inj h).1 notBackslash
  | short letter short =>
    cases hd with
    | plain _ notBackslash => exact absurd (List.cons.inj h).1.symm notBackslash
    | short other short' =>
      obtain ⟨same, rest⟩ := List.cons.inj (List.cons.inj h).2
      rw [same, short'] at short
      exact ⟨(Option.some.inj short).symm, rest⟩
    | code =>
      have isU : letter = 'u' := (List.cons.inj (List.cons.inj h).2).1
      simp [isU, shortEscape] at short
  | code below =>
    cases hd with
    | plain _ notBackslash => exact absurd (List.cons.inj h).1.symm notBackslash
    | short letter short =>
      have isU : 'u' = letter := (List.cons.inj (List.cons.inj h).2).1
      simp [← isU, shortEscape] at short
    | code below' =>
      simp only [List.cons_append, List.cons.injEq, List.nil_append, true_and] at h
      obtain ⟨high, low, rest⟩ := h
      have high := hexDigit_inj _ (by omega) _ (by omega) high
      have low := hexDigit_inj _ (by omega) _ (by omega) low
      exact ⟨Char.toNat_inj.1 (by omega), rest⟩

theorem Escapes.not_quote {c : Char} {xs r s : List Char} (hc : Escapes c xs) :
    xs ++ r ≠ '"' :: s := by
  intro h
  cases hc with
  | plain notQuote => exact notQuote (List.cons.inj h).1
  | short => exact absurd (List.cons.inj h).1 (by decide)
  | code => exact absurd (List.cons.inj h).1 (by decide)

def quoted (s : String) : List Char := '"' :: (s.toList.flatMap escapeChar ++ ['"'])

theorem toList_quote (s : String) : (quote s).toList = quoted s := by
  simp [quote, quoted]

/-- A quoted string ends at the first quote that no escape holds. -/
theorem escaped_cancel {xs ys r s : List Char}
    (h : xs.flatMap escapeChar ++ '"' :: r = ys.flatMap escapeChar ++ '"' :: s) :
    xs = ys ∧ r = s := by
  induction xs generalizing ys with
  | nil =>
    cases ys with
    | nil => exact ⟨rfl, (List.cons.inj h).2⟩
    | cons y ys =>
      rw [List.flatMap_cons, List.append_assoc] at h
      exact absurd h.symm (escapes_escapeChar y).not_quote
  | cons x xs ih =>
    rw [List.flatMap_cons, List.append_assoc] at h
    cases ys with
    | nil => exact absurd h (escapes_escapeChar x).not_quote
    | cons y ys =>
      rw [List.flatMap_cons, List.append_assoc] at h
      obtain ⟨first, h⟩ := (escapes_escapeChar x).cancel (escapes_escapeChar y) h
      obtain ⟨later, rest⟩ := ih h
      exact ⟨by rw [first, later], rest⟩

theorem quoted_cancel {k m : String} {r s : List Char} (h : quoted k ++ r = quoted m ++ s) :
    k = m ∧ r = s := by
  simp only [quoted, List.cons_append, List.append_assoc, List.nil_append, List.cons.injEq,
    true_and] at h
  obtain ⟨same, rest⟩ := escaped_cancel h
  exact ⟨String.toList_inj.1 same, rest⟩

/-! ## Integers -/

/-- What no digit stands at the beginning of. -/
def Delimited (r : List Char) : Prop := ∀ c ∈ r.head?, c.isDigit = false

theorem digits_cancel {ds es r s : List Char} (hd : ∀ c ∈ ds, c.isDigit = true)
    (he : ∀ c ∈ es, c.isDigit = true) (hr : Delimited r) (hs : Delimited s)
    (h : ds ++ r = es ++ s) : ds = es ∧ r = s := by
  have stops {t : List Char} (ht : Delimited t) : t.takeWhile Char.isDigit = [] := by
    cases t with
    | nil => rfl
    | cons c t => rw [List.takeWhile_cons_of_neg (by simp [ht c rfl])]
  have taken : (ds ++ r).takeWhile Char.isDigit = (es ++ s).takeWhile Char.isDigit := by rw [h]
  rw [List.takeWhile_append_of_pos hd, List.takeWhile_append_of_pos he, stops hr, stops hs,
    List.append_nil, List.append_nil] at taken
  subst taken
  exact ⟨rfl, List.append_cancel_left h⟩

theorem isDigit_of_mem_digits {n : Nat} {c : Char} (h : c ∈ Nat.toDigits 10 n) :
    c.isDigit = true :=
  Nat.isDigit_of_mem_toDigits (by decide) (by decide) h

theorem digits_inj {m n : Nat} (h : Nat.toDigits 10 m = Nat.toDigits 10 n) : m = n := by
  have read (k : Nat) : Nat.ofDigitChars 10 (Nat.toDigits 10 k) 0 = k := by simp
  rw [← read m, ← read n, h]

def intChars : Int → List Char
  | .ofNat n => Nat.toDigits 10 n
  | .negSucc n => '-' :: Nat.toDigits 10 (n + 1)

theorem toList_toString_int (i : Int) : (toString i).toList = intChars i := by
  cases i with
  | ofNat n =>
    change (Nat.repr n).toList = _
    simp [intChars]
  | negSucc n =>
    change ("-" ++ Nat.repr (n + 1)).toList = _
    simp [intChars]

theorem intChars_opens (i : Int) : ∃ c cs, intChars i = c :: cs ∧ (c = '-' ∨ c.isDigit = true) := by
  cases i with
  | negSucc n => exact ⟨'-', _, rfl, .inl rfl⟩
  | ofNat n =>
    obtain ⟨c, cs, h⟩ := List.exists_cons_of_ne_nil (Nat.toDigits_ne_nil (n := n) (b := 10))
    exact ⟨c, cs, h, .inr (isDigit_of_mem_digits (h ▸ List.mem_cons_self))⟩

theorem intChars_cancel {i j : Int} {r s : List Char} (hr : Delimited r) (hs : Delimited s)
    (h : intChars i ++ r = intChars j ++ s) : i = j ∧ r = s := by
  have digits {m n : Nat} (h : Nat.toDigits 10 m ++ r = Nat.toDigits 10 n ++ s) :
      m = n ∧ r = s := by
    obtain ⟨same, rest⟩ := digits_cancel (fun _ => isDigit_of_mem_digits)
      (fun _ => isDigit_of_mem_digits) hr hs h
    exact ⟨digits_inj same, rest⟩
  -- A number begins with a digit, so that a sign tells the negative ones.
  have signed {m n : Nat} {r s : List Char} :
      Nat.toDigits 10 m ++ r ≠ '-' :: (Nat.toDigits 10 n ++ s) := by
    intro h
    obtain ⟨c, cs, first⟩ := List.exists_cons_of_ne_nil (Nat.toDigits_ne_nil (n := m) (b := 10))
    have digit : c.isDigit = true := isDigit_of_mem_digits (first ▸ List.mem_cons_self)
    rw [first] at h
    rw [(List.cons.inj h).1] at digit
    exact absurd digit (by decide)
  cases i with
  | ofNat m =>
    cases j with
    | ofNat n =>
      obtain ⟨same, rest⟩ := digits h
      exact ⟨by rw [same], rest⟩
    | negSucc n => exact absurd h signed
  | negSucc m =>
    cases j with
    | ofNat n => exact absurd h.symm signed
    | negSucc n =>
      obtain ⟨same, rest⟩ := digits (List.cons.inj h).2
      exact ⟨by rw [Nat.succ.inj same], rest⟩

/-! ## Layouts -/

/-- Where blanks stand: before each item of a level, and after the colon of a member. -/
structure Layout where
  gap : Nat → List Char
  colon : List Char
  blank : ∀ level, ∀ c ∈ gap level, c = ' ' ∨ c = '\n'

namespace Layout

/-- No blanks at all. -/
def tight : Layout where
  gap _ := []
  colon := []
  blank := nofun

/-- Each item on a line of its own, with two spaces for each level. -/
def lines : Layout where
  gap level := '\n' :: List.replicate (2 * level) ' '
  colon := [' ']
  blank level c h := by
    rcases List.mem_cons.1 h with h | h
    · exact .inr h
    · exact .inl (List.eq_of_mem_replicate h)

mutual

/-- A value at a level of nesting; what follows the first item of an array or an object is written
with its closing bracket. -/
def chars (l : Layout) (level : Nat) : Json → List Char
  | null => "null".toList
  | bool true => "true".toList
  | bool false => "false".toList
  | int i => intChars i
  | double d => (doubleText d).toList
  | str s => quoted s
  | arr [] => ['[', ']']
  | arr (v :: rest) =>
    '[' :: (l.gap (level + 1) ++ (l.chars (level + 1) v ++ l.itemsTail level rest))
  | obj [] => ['\x7b', '\x7d']
  | obj ((k, v) :: rest) =>
    '\x7b' :: (l.gap (level + 1) ++ (quoted k ++ (':' :: (l.colon ++ (l.chars (level + 1) v ++
      l.membersTail level rest)))))

def itemsTail (l : Layout) (level : Nat) : List Json → List Char
  | [] => l.gap level ++ [']']
  | v :: rest =>
    ',' :: (l.gap (level + 1) ++ (l.chars (level + 1) v ++ l.itemsTail level rest))

def membersTail (l : Layout) (level : Nat) : List (String × Json) → List Char
  | [] => l.gap level ++ ['\x7d']
  | (k, v) :: rest =>
    ',' :: (l.gap (level + 1) ++ (quoted k ++ (':' :: (l.colon ++ (l.chars (level + 1) v ++
      l.membersTail level rest)))))

end

end Layout

mutual

theorem compact_eq_chars : ∀ (v : Json) (level : Nat), v.compact.toList = Layout.tight.chars level v
  | null, _ | bool true, _ | bool false, _ | double _, _ => by simp [compact, Layout.chars]
  | int i, _ => by rw [compact, toList_toString_int, Layout.chars]
  | str s, _ => by rw [compact, toList_quote, Layout.chars]
  | arr [], _ => by simp [compact, compactItems, Layout.chars]
  | arr (v :: rest), level => by
    have items := compactItems_eq_chars rest v level (compact_eq_chars v (level + 1))
    simp only [compact, Layout.chars, String.toList_append, List.append_assoc]
    exact congrArg ('[' :: ·) items
  | obj [], _ => by simp [compact, compactMembers, Layout.chars]
  | obj ((k, v) :: rest), level => by
    have members := compactMembers_eq_chars rest k v level (compact_eq_chars v (level + 1))
    simp only [compact, Layout.chars, String.toList_append, List.append_assoc]
    exact congrArg ('\x7b' :: ·) members

theorem compactItems_eq_chars : ∀ (rest : List Json) (v : Json) (level : Nat),
    v.compact.toList = Layout.tight.chars (level + 1) v →
    (compactItems (v :: rest)).toList ++ [']'] =
      Layout.tight.chars (level + 1) v ++ Layout.tight.itemsTail level rest
  | [], v, level, first => by
    rw [compactItems, first]
    rfl
  | w :: rest, v, level, first => by
    have later := compactItems_eq_chars rest w level (compact_eq_chars w (level + 1))
    rw [compactItems]
    simp only [String.toList_append, List.append_assoc]
    rw [later, first, Layout.itemsTail]
    rfl

theorem compactMembers_eq_chars : ∀ (rest : List (String × Json)) (k : String) (v : Json)
    (level : Nat), v.compact.toList = Layout.tight.chars (level + 1) v →
    (compactMembers ((k, v) :: rest)).toList ++ ['\x7d'] =
      quoted k ++ (':' :: (Layout.tight.chars (level + 1) v ++ Layout.tight.membersTail level rest))
  | [], k, v, level, first => by
    rw [compactMembers]
    simp only [String.toList_append, List.append_assoc]
    rw [toList_quote, first]
    rfl
  | (m, w) :: rest, k, v, level, first => by
    have later := compactMembers_eq_chars rest m w level (compact_eq_chars w (level + 1))
    rw [compactMembers]
    simp only [String.toList_append, List.append_assoc]
    rw [later, toList_quote, first, Layout.membersTail]
    rfl

end

/-- A new line with its blanks, as the gap before an item. -/
theorem newline_indent (level : Nat) (rest : List Char) :
    "\n".toList ++ ((indent level).toList ++ rest) = Layout.lines.gap level ++ rest := by
  simp [indent, Layout.lines]

mutual

theorem prettyAt_eq_chars : ∀ (v : Json) (level : Nat),
    (v.prettyAt level).toList = Layout.lines.chars level v
  | null, _ | bool true, _ | bool false, _ | double _, _ => by simp [prettyAt, Layout.chars]
  | int i, _ => by rw [prettyAt, toList_toString_int, Layout.chars]
  | str s, _ => by rw [prettyAt, toList_quote, Layout.chars]
  | arr [], _ => by simp [prettyAt, Layout.chars]
  | arr (v :: rest), level => by
    have items := prettyItems_eq_chars rest v level (prettyAt_eq_chars v (level + 1))
    simp only [prettyAt, Layout.chars, String.toList_append, List.append_assoc]
    exact congrArg ('[' :: ·) items
  | obj [], _ => by simp [prettyAt, Layout.chars]
  | obj ((k, v) :: rest), level => by
    have members := prettyMembers_eq_chars rest k v level (prettyAt_eq_chars v (level + 1))
    simp only [prettyAt, Layout.chars, String.toList_append, List.append_assoc]
    exact congrArg ('\x7b' :: ·) members

theorem prettyItems_eq_chars : ∀ (rest : List Json) (v : Json) (level : Nat),
    (v.prettyAt (level + 1)).toList = Layout.lines.chars (level + 1) v →
    "\n".toList ++ ((prettyItems (level + 1) (v :: rest)).toList ++
        ("\n".toList ++ ((indent level).toList ++ [']']))) =
      Layout.lines.gap (level + 1) ++
        (Layout.lines.chars (level + 1) v ++ Layout.lines.itemsTail level rest)
  | [], v, level, first => by
    simp only [prettyItems, String.toList_append, List.append_assoc, newline_indent, first,
      Layout.itemsTail]
  | w :: rest, v, level, first => by
    have later := prettyItems_eq_chars rest w level (prettyAt_eq_chars w (level + 1))
    simp only [prettyItems, String.toList_append, List.append_assoc, newline_indent, first,
      Layout.itemsTail]
    rw [newline_indent] at later
    exact congrArg (fun text => _ ++ (_ ++ ',' :: text)) later

theorem prettyMembers_eq_chars : ∀ (rest : List (String × Json)) (k : String) (v : Json)
    (level : Nat), (v.prettyAt (level + 1)).toList = Layout.lines.chars (level + 1) v →
    "\n".toList ++ ((prettyMembers (level + 1) ((k, v) :: rest)).toList ++
        ("\n".toList ++ ((indent level).toList ++ ['\x7d']))) =
      Layout.lines.gap (level + 1) ++ (quoted k ++ (':' :: (Layout.lines.colon ++
        (Layout.lines.chars (level + 1) v ++ Layout.lines.membersTail level rest))))
  | [], k, v, level, first => by
    simp only [prettyMembers, String.toList_append, List.append_assoc, newline_indent, first,
      Layout.membersTail, toList_quote]
    rfl
  | (m, w) :: rest, k, v, level, first => by
    have later := prettyMembers_eq_chars rest m w level (prettyAt_eq_chars w (level + 1))
    simp only [prettyMembers, String.toList_append, List.append_assoc, newline_indent, first,
      Layout.membersTail, toList_quote]
    rw [newline_indent] at later
    exact congrArg (fun text => _ ++ (_ ++ ':' :: ' ' :: (_ ++ ',' :: text))) later

end

/-! ## Reading a text from its first character on -/

/-- The constructor of the values whose text begins with the character, and that of doubles where
there are none. -/
def constructorAt (c : Char) : Nat :=
  if c = 'n' then null.ctorIdx
  else if c = 't' ∨ c = 'f' then (bool true).ctorIdx
  else if c = '-' ∨ c.isDigit = true then (int 0).ctorIdx
  else if c = '"' then (str "").ctorIdx
  else if c = '[' then (arr []).ctorIdx
  else if c = '\x7b' then (obj []).ctorIdx
  else (double .nan).ctorIdx

theorem constructorAt_digit {c : Char} (digit : c.isDigit = true) :
    constructorAt c = (int 0).ctorIdx := by
  have ne (d : Char) (h : d.isDigit = false) : c ≠ d := by
    intro e
    rw [e, h] at digit
    exact absurd digit (by decide)
  rw [constructorAt, if_neg (ne 'n' rfl), if_neg (not_or.2 ⟨ne 't' rfl, ne 'f' rfl⟩),
    if_pos (.inr digit)]

namespace Layout

variable (l : Layout) {level : Nat}

theorem exists_chars_eq_cons (level : Nat) {v : Json} (h : v.IsIntegral) :
    ∃ c cs, l.chars level v = c :: cs ∧ constructorAt c = v.ctorIdx := by
  cases v with
  | null => exact ⟨'n', _, rfl, rfl⟩
  | bool b =>
    cases b with
    | true => exact ⟨'t', _, rfl, rfl⟩
    | false => exact ⟨'f', _, rfl, rfl⟩
  | int i =>
    obtain ⟨c, cs, opens, sign | digit⟩ := intChars_opens i
    · exact ⟨c, cs, by rw [chars, opens], sign ▸ rfl⟩
    · exact ⟨c, cs, by rw [chars, opens], constructorAt_digit digit⟩
  | double d => exact absurd h (by simp [IsIntegral])
  | str s => exact ⟨'"', _, rfl, rfl⟩
  | arr items => cases items <;> exact ⟨'[', _, rfl, rfl⟩
  | obj members => cases members <;> exact ⟨'\x7b', _, rfl, rfl⟩

/-- What is no blank can only stand where a gap is empty. -/
theorem cons_ne_gap {c : Char} {r s : List Char} (notBlank : c ≠ ' ' ∧ c ≠ '\n')
    (other : ∀ t, s ≠ c :: t) : c :: r ≠ l.gap level ++ s := by
  intro h
  cases gap : l.gap level with
  | nil =>
    rw [gap] at h
    exact other r h.symm
  | cons d ds =>
    rw [gap] at h
    have blank := l.blank level d (gap ▸ List.mem_cons_self)
    rw [← (List.cons.inj h).1] at blank
    exact blank.elim notBlank.1 notBlank.2

theorem delimited_gap {c : Char} {r : List Char} (h : c.isDigit = false) :
    Delimited (l.gap level ++ c :: r) := by
  intro d first
  cases gap : l.gap level with
  | nil =>
    rw [gap] at first
    cases first
    exact h
  | cons e es =>
    have blank := l.blank level e (gap ▸ List.mem_cons_self)
    rw [gap] at first
    cases first
    rcases blank with rfl | rfl <;> rfl

theorem delimited_itemsTail (rest : List Json) (r : List Char) :
    Delimited (l.itemsTail level rest ++ r) := by
  cases rest with
  | nil =>
    rw [itemsTail, List.append_assoc]
    exact l.delimited_gap rfl
  | cons v rest =>
    intro c first
    cases first
    rfl

theorem delimited_membersTail (rest : List (String × Json)) (r : List Char) :
    Delimited (l.membersTail level rest ++ r) := by
  cases rest with
  | nil =>
    rw [membersTail, List.append_assoc]
    exact l.delimited_gap rfl
  | cons v rest =>
    intro c first
    cases first
    rfl

/-- An array that is closed at once holds no item. -/
theorem bracket_ne_items {v : Json} {rest : List Json} (h : (arr (v :: rest)).IsIntegral)
    {r s : List Char} :
    ']' :: r ≠ l.gap (level + 1) ++ (l.chars (level + 1) v ++ l.itemsTail level rest) ++ s := by
  rw [List.append_assoc]
  apply l.cons_ne_gap (by decide)
  intro t e
  rw [IsIntegral, ItemsIntegral] at h
  obtain ⟨c, cs, first, kind⟩ := l.exists_chars_eq_cons (level + 1) h.1
  rw [first] at e
  rw [(List.cons.inj e).1] at kind
  cases v with
  | double d => simp [IsIntegral] at h
  | _ => cases kind

/-- An object that is closed at once holds no member. -/
theorem bracket_ne_members (m : String × Json) (rest : List (String × Json)) {r s : List Char} :
    '\x7d' :: r ≠ l.gap (level + 1) ++ (quoted m.1 ++ (':' :: (l.colon ++
      (l.chars (level + 1) m.2 ++ l.membersTail level rest)))) ++ s := by
  rw [List.append_assoc]
  apply l.cons_ne_gap (by decide)
  intro t e
  exact absurd (List.cons.inj e).1 (by decide)

/-- After an item comes a comma or the closing bracket. -/
theorem comma_ne_closing {close : Char} (h : close ≠ ',') {t r s : List Char} :
    (',' :: t) ++ r ≠ l.gap level ++ [close] ++ s := by
  rw [List.append_assoc]
  apply l.cons_ne_gap (by decide)
  intro t e
  exact h (List.cons.inj e).1

mutual

/-- Values whose texts begin alike, what follows not carrying on a number, are equal. -/
theorem chars_cancel : ∀ (v w : Json) (level : Nat) {r s : List Char}, v.IsIntegral →
    w.IsIntegral → Delimited r → Delimited s →
    l.chars level v ++ r = l.chars level w ++ s → v = w ∧ r = s := by
  intro v w level r s hv hw hr hs h
  have alike : v.ctorIdx = w.ctorIdx := by
    obtain ⟨c, cs, first, kind⟩ := l.exists_chars_eq_cons level hv
    obtain ⟨d, ds, first', kind'⟩ := l.exists_chars_eq_cons level hw
    rw [first, first'] at h
    rw [← kind, ← kind', (List.cons.inj h).1]
  match v, w, alike with
  | null, null, _ => exact ⟨rfl, List.append_cancel_left h⟩
  | bool a, bool b, _ =>
    cases a <;> cases b
    · exact ⟨rfl, List.append_cancel_left h⟩
    · exact absurd (List.cons.inj h).1 (by decide)
    · exact absurd (List.cons.inj h).1 (by decide)
    · exact ⟨rfl, List.append_cancel_left h⟩
  | int i, int j, _ =>
    obtain ⟨same, rest⟩ := intChars_cancel hr hs h
    exact ⟨by rw [same], rest⟩
  | double d, _, _ => exact absurd hv (by simp [IsIntegral])
  | str a, str b, _ =>
    obtain ⟨same, rest⟩ := quoted_cancel h
    exact ⟨by rw [same], rest⟩
  | arr [], arr [], _ => exact ⟨rfl, List.append_cancel_left h⟩
  | arr [], arr (y :: ys), _ => exact absurd (List.cons.inj h).2 (l.bracket_ne_items hw)
  | arr (x :: xs), arr [], _ => exact absurd (List.cons.inj h).2.symm (l.bracket_ne_items hv)
  | arr (x :: xs), arr (y :: ys), _ =>
    simp only [chars, List.cons_append, List.append_assoc, List.cons.injEq, true_and] at h
    simp only [IsIntegral, ItemsIntegral] at hv hw
    obtain ⟨first, h⟩ := chars_cancel x y (level + 1) hv.1 hw.1 (l.delimited_itemsTail _ _)
      (l.delimited_itemsTail _ _) (List.append_cancel_left h)
    obtain ⟨later, rest⟩ := itemsTail_cancel xs ys level hv.2 hw.2 h
    exact ⟨by rw [first, later], rest⟩
  | obj [], obj [], _ => exact ⟨rfl, List.append_cancel_left h⟩
  | obj [], obj (y :: ys), _ => exact absurd (List.cons.inj h).2 (l.bracket_ne_members y ys)
  | obj (x :: xs), obj [], _ => exact absurd (List.cons.inj h).2.symm (l.bracket_ne_members x xs)
  | obj ((k, x) :: xs), obj ((m, y) :: ys), _ =>
    simp only [chars, List.cons_append, List.append_assoc, List.cons.injEq, true_and] at h
    simp only [IsIntegral, MembersIntegral] at hv hw
    obtain ⟨name, h⟩ := quoted_cancel (List.append_cancel_left h)
    obtain ⟨first, h⟩ := chars_cancel x y (level + 1) hv.1 hw.1 (l.delimited_membersTail _ _)
      (l.delimited_membersTail _ _) (List.append_cancel_left (List.cons.inj h).2)
    obtain ⟨later, rest⟩ := membersTail_cancel xs ys level hv.2 hw.2 h
    exact ⟨by rw [name, first, later], rest⟩

theorem itemsTail_cancel : ∀ (xs ys : List Json) (level : Nat) {r s : List Char},
    ItemsIntegral xs → ItemsIntegral ys →
    l.itemsTail level xs ++ r = l.itemsTail level ys ++ s → xs = ys ∧ r = s
  | [], [], level, r, s, _, _, h => ⟨rfl, List.append_cancel_left h⟩
  | [], y :: ys, level, r, s, _, _, h => absurd h.symm (l.comma_ne_closing (by decide))
  | x :: xs, [], level, r, s, _, _, h => absurd h (l.comma_ne_closing (by decide))
  | x :: xs, y :: ys, level, r, s, hx, hy, h => by
    simp only [itemsTail, List.cons_append, List.append_assoc, List.cons.injEq, true_and] at h
    simp only [ItemsIntegral] at hx hy
    obtain ⟨first, h⟩ := chars_cancel x y (level + 1) hx.1 hy.1 (l.delimited_itemsTail _ _)
      (l.delimited_itemsTail _ _) (List.append_cancel_left h)
    obtain ⟨later, rest⟩ := itemsTail_cancel xs ys level hx.2 hy.2 h
    exact ⟨by rw [first, later], rest⟩

theorem membersTail_cancel : ∀ (xs ys : List (String × Json)) (level : Nat) {r s : List Char},
    MembersIntegral xs → MembersIntegral ys →
    l.membersTail level xs ++ r = l.membersTail level ys ++ s → xs = ys ∧ r = s
  | [], [], level, r, s, _, _, h => ⟨rfl, List.append_cancel_left h⟩
  | [], y :: ys, level, r, s, _, _, h => absurd h.symm (l.comma_ne_closing (by decide))
  | x :: xs, [], level, r, s, _, _, h => absurd h (l.comma_ne_closing (by decide))
  | (k, x) :: xs, (m, y) :: ys, level, r, s, hx, hy, h => by
    simp only [membersTail, List.cons_append, List.append_assoc, List.cons.injEq, true_and] at h
    simp only [MembersIntegral] at hx hy
    obtain ⟨name, h⟩ := quoted_cancel (List.append_cancel_left h)
    obtain ⟨first, h⟩ := chars_cancel x y (level + 1) hx.1 hy.1 (l.delimited_membersTail _ _)
      (l.delimited_membersTail _ _) (List.append_cancel_left (List.cons.inj h).2)
    obtain ⟨later, rest⟩ := membersTail_cancel xs ys level hx.2 hy.2 h
    exact ⟨by rw [name, first, later], rest⟩

end

theorem chars_inj (level : Nat) {v w : Json} (hv : v.IsIntegral) (hw : w.IsIntegral)
    (h : l.chars level v = l.chars level w) : v = w := by
  have ended : Delimited [] := nofun
  exact (l.chars_cancel v w level (r := []) (s := []) hv hw ended ended (by rw [h])).1

end Layout

/-- **The compact text of a value determines the value.** -/
theorem compact_inj {v w : Json} (hv : v.IsIntegral) (hw : w.IsIntegral)
    (h : v.compact = w.compact) : v = w := by
  apply Layout.tight.chars_inj 0 hv hw
  rw [← compact_eq_chars, ← compact_eq_chars, h]

/-- **So does the indented text.** -/
theorem pretty_inj {v w : Json} (hv : v.IsIntegral) (hw : w.IsIntegral)
    (h : v.pretty = w.pretty) : v = w := by
  apply Layout.lines.chars_inj 0 hv hw
  rw [← prettyAt_eq_chars, ← prettyAt_eq_chars]
  exact congrArg String.toList h

end WorkloadIdentity.Json
