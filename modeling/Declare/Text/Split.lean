/-!
# Taking texts apart

Blanks separate and surround the parts of a written model, a condition or a domain. They are the
characters with the Unicode property White_Space. `trim` removes them from both ends of a text and
leaves every other text as it is (`trim_eq_self`).

A text is split at a separator, freed of a known beginning, or divided into lines. The pieces of
`fields` never hold the separator, and joining them with it gives the text back
(`intercalate_fields`); `cut?` divides at the first occurrence of a separator of any length.

Other readers take something from the front of a list and return what is left. To know that reading
ends, what is left comes with the fact that it is not longer than the list (`Rest`), or shorter if
the reader takes at least one element (`ProperRest`).
-/

namespace Declare.Text

/-- The characters with the property White_Space, as closed ranges of code points. -/
def blankRanges : List (Nat × Nat) :=
  [(0x09, 0x0D), (0x20, 0x20), (0x85, 0x85), (0xA0, 0xA0), (0x1680, 0x1680), (0x2000, 0x200A),
   (0x2028, 0x2029), (0x202F, 0x202F), (0x205F, 0x205F), (0x3000, 0x3000)]

/-- Whether a character is a blank. -/
def isBlank (c : Char) : Bool :=
  blankRanges.any fun range => range.1 ≤ c.toNat && c.toNat ≤ range.2

/-- A text without its leading blanks. -/
def trimStart (cs : List Char) : List Char :=
  cs.dropWhile isBlank

/-- A text without its trailing blanks. -/
def trimEnd (cs : List Char) : List Char :=
  (cs.reverse.dropWhile isBlank).reverse

/-- A text without the blanks around it. -/
def trim (cs : List Char) : List Char :=
  trimEnd (trimStart cs)

/-- A string without the blanks around it. -/
def trimmed (s : String) : String :=
  .ofList (trim s.toList)

@[simp] theorem toList_trimmed (s : String) : (trimmed s).toList = trim s.toList := by
  simp [trimmed]

theorem trimStart_eq_self {cs : List Char} (h : ∀ c r, cs = c :: r → isBlank c = false) :
    trimStart cs = cs := by
  cases cs with
  | nil => rfl
  | cons c r => simp [trimStart, h c r rfl]

theorem trimEnd_eq_self {cs : List Char} (h : ∀ r c, cs = r ++ [c] → isBlank c = false) :
    trimEnd cs = cs := by
  have reversed : trimStart cs.reverse = cs.reverse := by
    apply trimStart_eq_self
    intro c r hc
    apply h r.reverse c
    simpa using congrArg List.reverse hc
  simpa [trimEnd, trimStart] using congrArg List.reverse reversed

/-- A text that neither starts nor ends with a blank is left as it is. -/
theorem trim_eq_self {cs : List Char} (first : ∀ c r, cs = c :: r → isBlank c = false)
    (last : ∀ r c, cs = r ++ [c] → isBlank c = false) : trim cs = cs := by
  rw [trim, trimStart_eq_self first, trimEnd_eq_self last]

/-- The pieces of a text between the occurrences of a separator character; there is always one. -/
def fields (separator : Char) : List Char → List (List Char)
  | [] => [[]]
  | c :: cs =>
    if c = separator then [] :: fields separator cs
    else (fields separator cs).modifyHead (c :: ·)

/-- What follows a beginning, if the text has that beginning. -/
def stripPrefix? : List Char → List Char → Option (List Char)
  | [], cs => some cs
  | _ :: _, [] => none
  | b :: bs, c :: cs => if b = c then stripPrefix? bs cs else none

/-- The texts before and after the first occurrence of a separator. -/
def cut? (separator : List Char) : List Char → Option (List Char × List Char)
  | [] => (stripPrefix? separator []).map fun after => ([], after)
  | c :: cs =>
    match stripPrefix? separator (c :: cs) with
    | some after => some ([], after)
    | none => (cut? separator cs).map fun parts => (c :: parts.1, parts.2)

/-- The lines of a text. A line feed ends a line; what follows the last one is a line only if it
is not empty. -/
def lines (cs : List Char) : List (List Char) :=
  let pieces := fields '\n' cs
  if pieces.getLast? = some [] then pieces.dropLast else pieces

theorem fields_ne_nil (separator : Char) (cs : List Char) : fields separator cs ≠ [] := by
  induction cs with
  | nil => simp [fields]
  | cons c cs ih =>
    rw [fields]
    split
    · simp
    · cases h : fields separator cs with
      | nil => exact absurd h ih
      | cons _ _ => simp

/-- Joining the pieces with the separator gives the text back. -/
theorem intercalate_fields (separator : Char) (cs : List Char) :
    [separator].intercalate (fields separator cs) = cs := by
  induction cs with
  | nil => simp [fields, List.intercalate]
  | cons c cs ih =>
    obtain ⟨piece, rest, h⟩ := List.exists_cons_of_ne_nil (fields_ne_nil separator cs)
    rw [fields, h]
    rw [h] at ih
    split
    · next hc => cases rest <;> simp_all [List.intercalate]
    · cases rest <;> simp_all [List.intercalate]

theorem stripPrefix?_eq_some_iff {beginning cs rest : List Char} :
    stripPrefix? beginning cs = some rest ↔ cs = beginning ++ rest := by
  induction beginning generalizing cs with
  | nil => simp [stripPrefix?, eq_comm]
  | cons b bs ih =>
    cases cs with
    | nil => simp [stripPrefix?]
    | cons c cs =>
      by_cases h : b = c
      · simp [stripPrefix?, h, ih]
      · simp [stripPrefix?, h, Ne.symm h]

end Declare.Text

namespace Declare

variable {α : Type}

/-- What is left of a list after its front was read. -/
structure Rest (l : List α) where
  list : List α
  le : list.length ≤ l.length

/-- What is left of a list after at least one element was read. -/
structure ProperRest (l : List α) where
  list : List α
  lt : list.length < l.length

namespace Rest

/-- All of the list is left. -/
def all (l : List α) : Rest l :=
  ⟨l, Nat.le_refl _⟩

/-- What is left from the first element on that does not satisfy `p`. -/
def dropWhile (p : α → Bool) (l : List α) : Rest l :=
  ⟨l.dropWhile p, (List.dropWhile_sublist p).length_le⟩

/-- What is left of a list is left of one that is longer in front. -/
def cons {a : α} {l : List α} (r : Rest l) : Rest (a :: l) :=
  ⟨r.list, Nat.le_succ_of_le r.le⟩

/-- Reading goes on in what is left. -/
def trans {l : List α} (r : Rest l) (s : Rest r.list) : Rest l :=
  ⟨s.list, Nat.le_trans s.le r.le⟩

/-- The first element of what is left, and what is left after it. -/
def next? {l : List α} (r : Rest l) : Option (α × Rest l) :=
  match r with
  | ⟨[], _⟩ => none
  | ⟨a :: rest, h⟩ => some (a, ⟨rest, Nat.le_of_succ_le h⟩)

theorem exists_next?_eq {a : α} {l rest : List α} {r : Rest l} (h : r.list = a :: rest) :
    ∃ r', r.next? = some (a, r') ∧ r'.list = rest := by
  obtain ⟨list, le⟩ := r
  cases h
  exact ⟨_, rfl, rfl⟩

theorem next?_eq_none {l : List α} {r : Rest l} (h : r.list = []) : r.next? = none := by
  obtain ⟨list, le⟩ := r
  cases h
  rfl

/-- What is left of a list after its first element and maybe more was read. -/
def proper {a : α} {l : List α} (r : Rest l) : ProperRest (a :: l) :=
  ⟨r.list, Nat.lt_succ_of_le r.le⟩

end Rest

namespace ProperRest

/-- All but the first element is left. -/
def tail (a : α) (l : List α) : ProperRest (a :: l) :=
  ⟨l, Nat.lt_succ_self _⟩

/-- What is left is not longer than the list. -/
def toRest {l : List α} (r : ProperRest l) : Rest l :=
  ⟨r.list, Nat.le_of_lt r.lt⟩

/-- What is left of a list is left of one that is longer in front. -/
def cons {a : α} {l : List α} (r : ProperRest l) : ProperRest (a :: l) :=
  ⟨r.list, Nat.lt_succ_of_lt r.lt⟩

/-- Reading goes on in what is left. -/
def trans {l : List α} (r : ProperRest l) (s : Rest r.list) : ProperRest l :=
  ⟨s.list, Nat.lt_of_le_of_lt s.le r.lt⟩

/-- The first element of what is left, and what is left after it. -/
def next? {l : List α} (r : ProperRest l) : Option (α × ProperRest l) :=
  match r with
  | ⟨[], _⟩ => none
  | ⟨a :: rest, h⟩ => some (a, ⟨rest, Nat.lt_trans (Nat.lt_succ_self _) h⟩)

end ProperRest

end Declare
