/-!
White space in the sense of the Unicode property `White_Space`, trimming, and cutting a text at a
separator. The rules are stated on lists of characters and lifted to strings once.
-/

set_option autoImplicit false

namespace TmuxPlan.Text

/-- The characters of the Unicode property `White_Space`. -/
def isBlank (c : Char) : Bool :=
  (9 ≤ c.toNat && c.toNat ≤ 13) || c.toNat == 0x20 || c.toNat == 0x85 || c.toNat == 0xA0 ||
    c.toNat == 0x1680 || (0x2000 ≤ c.toNat && c.toNat ≤ 0x200A) || c.toNat == 0x2028 ||
    c.toNat == 0x2029 || c.toNat == 0x202F || c.toNat == 0x205F || c.toNat == 0x3000

/-- Drops blanks at the end. -/
def trimRight : List Char → List Char
  | [] => []
  | c :: cs =>
    match trimRight cs with
    | [] => if isBlank c then [] else [c]
    | rest => c :: rest

def trimChars (cs : List Char) : List Char :=
  trimRight (cs.dropWhile isBlank)

/-- The text without the blanks around it. -/
def trim (s : String) : String :=
  String.ofList (trimChars s.toList)

/-- Whether the text has nothing but blanks in it. -/
def isBlankText (s : String) : Bool :=
  s.toList.all isBlank

@[simp]
theorem trimRight_eq_nil_iff (cs : List Char) :
    trimRight cs = [] ↔ ∀ c ∈ cs, isBlank c = true := by
  induction cs with
  | nil => simp [trimRight]
  | cons c cs ih =>
    simp only [trimRight, List.mem_cons, forall_eq_or_imp]
    split
    · rename_i empty
      rw [ih] at empty
      by_cases blank : isBlank c = true
      · simpa [blank] using empty
      · simp [blank]
    · rename_i nonempty
      have : ¬ ∀ c ∈ cs, isBlank c = true := fun all => nonempty (ih.mpr all)
      simp [this]

/-- The parts between the separators, so always one more part than there are separators. -/
def cut (separator : Char) : List Char → List (List Char)
  | [] => [[]]
  | c :: cs =>
    match cut separator cs with
    | [] => [[c]]
    | part :: parts => if c = separator then [] :: part :: parts else (c :: part) :: parts

/-- The parts between the separators, trimmed, without the empty ones. -/
def pieces (separator : Char) (s : String) : List String :=
  (((cut separator s.toList).map trimChars).filter (· ≠ [])).map String.ofList

/-- The lines of a text; a line feed ends a line and a carriage return before it is dropped. -/
def lines (s : String) : List String :=
  let parts := cut '\n' s.toList
  let ended := if parts.getLast? = some [] then parts.dropLast else parts
  ended.map fun line =>
    String.ofList (if line.getLast? = some '\r' then line.dropLast else line)

/-- ASCII letters in lower case, all else unchanged. -/
def asciiLower (s : String) : String :=
  String.ofList (s.toList.map Char.toLower)

end TmuxPlan.Text
