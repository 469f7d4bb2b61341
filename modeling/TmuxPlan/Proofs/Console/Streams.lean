import TmuxPlan.Console

/-!
Writing and reading, byte by byte. Texts that are written one after another are written like one text,
also where the output is full in the middle. A line that is read is the input through its first line
feed, or all of it.
-/

set_option autoImplicit false

namespace TmuxPlan

/-- The state that a computation ends in, whether it fails or not. -/
def stateOf {ε σ α : Type} : EStateM.Result ε σ α → σ
  | .ok _ state | .error _ state => state

def failureOf {ε σ α : Type} : EStateM.Result ε σ α → Option ε
  | .ok .. => none
  | .error cause _ => some cause

namespace Console

theorem toList_loop (array : ByteArray) (index : Nat) (read : List UInt8) :
    ByteArray.toList.loop array index read = read.reverse ++ array.data.toList.drop index := by
  fun_induction ByteArray.toList.loop array index read with
  | case1 index read inside inductionHypothesis =>
    have inList : index < array.data.toList.length := by simpa using inside
    have first : array.get! index = array.data.toList[index] := by
      simp [ByteArray.get!, getElem!_pos array.data index (by simpa using inside)]
    rw [inductionHypothesis, List.reverse_cons, List.append_assoc, List.singleton_append, first,
      List.getElem_cons_drop]
  | case2 index read outside =>
    have nothing : array.data.toList.drop index = [] := by
      simpa using Nat.le_of_not_lt outside
    rw [nothing, List.append_nil]

theorem bytes_eq (text : String) : bytes text = text.toByteArray.data.toList := by
  simp [bytes, ByteArray.toList, toList_loop]

@[simp]
theorem bytes_append (first second : String) :
    bytes (first ++ second) = bytes first ++ bytes second := by
  simp [bytes_eq]

/-! ### Writing -/

/-- Whether the output takes so many more bytes. -/
def Takes (console : Console) (count : Nat) : Prop :=
  ∀ limit ∈ console.capacity, console.written.length + count ≤ limit

/-- The bytes of a text that the output still takes. -/
def accepted (console : Console) (text : String) : List UInt8 :=
  match console.capacity with
  | none => bytes text
  | some limit => (bytes text).take (limit - console.written.length)

/-- The console after a text of which the output took only a part. -/
def filled (console : Console) (text : String) : Console :=
  { console with written := console.written ++ accepted console text }

def wrote (console : Console) (text : String) : Console :=
  { console with written := console.written ++ bytes text }

section

variable {console : Console} {text first second : String}

theorem accepted_prefix : console.accepted text <+: bytes text := by
  unfold accepted
  split
  · exact List.prefix_rfl
  · exact List.take_prefix _ _

theorem write_of_takes (takes : console.Takes (bytes text).length) :
    (write text).run console = .ok () (console.wrote text) := by
  unfold Takes at takes
  cases bound : console.capacity with
  | none => simp [EStateM.run, write, wrote, bound]
  | some limit =>
    have fits : console.written.length + (bytes text).length ≤ limit := takes limit bound
    simp [EStateM.run, write, wrote, bound, fits]

/-- An output that cannot take a text is filled with the start of it. -/
theorem write_of_not_takes (full : ¬ console.Takes (bytes text).length) :
    (write text).run console = .error (.io .outputFull) (console.filled text) := by
  unfold Takes at full
  cases bound : console.capacity with
  | none => simp [bound] at full
  | some limit =>
    have beyond : ¬ console.written.length + (bytes text).length ≤ limit := by
      simpa [bound] using full
    simp [EStateM.run, write, bound, beyond, filled, accepted]

theorem wrote_append : console.wrote (first ++ second) = (console.wrote first).wrote second := by
  simp [wrote]

theorem takes_append :
    console.Takes (bytes (first ++ second)).length ↔
      console.Takes (bytes first).length ∧ (console.wrote first).Takes (bytes second).length := by
  cases bound : console.capacity with
  | none => simp [Takes, wrote, bound]
  | some limit =>
    simp only [Takes, wrote, bound, Option.mem_some_iff, forall_eq', bytes_append,
      List.length_append]
    omega

theorem filled_append_of_takes (takes : console.Takes (bytes first).length) :
    console.filled (first ++ second) = (console.wrote first).filled second := by
  cases bound : console.capacity with
  | none => simp [filled, accepted, wrote, bound]
  | some limit =>
    have fits := takes limit bound
    have rest : (bytes (first ++ second)).take (limit - console.written.length) =
        bytes first ++ (bytes second).take (limit - (console.written ++ bytes first).length) := by
      rw [bytes_append, List.take_append, List.take_of_length_le (by omega), Nat.sub_sub,
        List.length_append]
    simp only [filled, accepted, wrote, bound, rest, List.append_assoc]

theorem filled_append_of_not_takes (full : ¬ console.Takes (bytes first).length) :
    console.filled (first ++ second) = console.filled first := by
  unfold Takes at full
  cases bound : console.capacity with
  | none => simp [bound] at full
  | some limit =>
    have beyond : limit - console.written.length ≤ (bytes first).length := by
      simp only [bound, Option.mem_some_iff, forall_eq'] at full
      omega
    simp only [filled, accepted, bound, bytes_append, List.take_append_of_le_length beyond]

end

/-- Two texts, one after the other, are written like one. -/
theorem write_append (first second : String) (console : Console) :
    (write (first ++ second)).run console =
      (write first >>= fun _ => write second).run console := by
  rw [EStateM.run_bind]
  by_cases takesFirst : console.Takes (bytes first).length
  · rw [write_of_takes takesFirst]
    by_cases takesSecond : (console.wrote first).Takes (bytes second).length
    · rw [write_of_takes (takes_append.mpr ⟨takesFirst, takesSecond⟩), wrote_append]
      exact (write_of_takes takesSecond).symm
    · have full : ¬ console.Takes (bytes (first ++ second)).length :=
        fun takes => takesSecond (takes_append.mp takes).2
      rw [write_of_not_takes full, filled_append_of_takes takesFirst]
      exact (write_of_not_takes takesSecond).symm
  · have full : ¬ console.Takes (bytes (first ++ second)).length :=
      fun takes => takesFirst (takes_append.mp takes).1
    rw [write_of_not_takes full, write_of_not_takes takesFirst,
      filled_append_of_not_takes takesFirst]

/-! ### Reading a line -/

/-- The first line of an input with its line feed, if it has one, and what follows it. -/
inductive FirstLine : List UInt8 → List UInt8 → List UInt8 → Prop where
  | ended {line : List UInt8} (rest : List UInt8) :
      10 ∉ line → FirstLine (line ++ 10 :: rest) (line ++ [10]) rest
  | unended {line : List UInt8} : 10 ∉ line → FirstLine line line []

theorem cutLine_cons {byte : UInt8} (inside : byte ≠ 10) (rest : List UInt8) :
    cutLine (byte :: rest) = (byte :: (cutLine rest).1, (cutLine rest).2) := by
  simp [cutLine, inside]

theorem cutLine_of_firstLine {input line rest : List UInt8} (first : FirstLine input line rest) :
    cutLine input = (line, rest) := by
  cases first with
  | @ended line _ outside =>
    induction line with
    | nil => simp [cutLine]
    | cons byte line inductionHypothesis =>
      obtain ⟨inside, later⟩ := List.ne_and_not_mem_of_not_mem_cons outside
      rw [List.cons_append, cutLine_cons (Ne.symm inside), inductionHypothesis later]
      rfl
  | unended outside =>
    induction input with
    | nil => rfl
    | cons byte input inductionHypothesis =>
      obtain ⟨inside, later⟩ := List.ne_and_not_mem_of_not_mem_cons outside
      rw [cutLine_cons (Ne.symm inside), inductionHypothesis later]

theorem FirstLine.unique {input line rest otherLine otherRest : List UInt8}
    (first : FirstLine input line rest) (other : FirstLine input otherLine otherRest) :
    line = otherLine ∧ rest = otherRest := by
  apply Prod.mk.inj
  rw [← cutLine_of_firstLine first, ← cutLine_of_firstLine other]

theorem firstLine_cutLine (input : List UInt8) :
    FirstLine input (cutLine input).1 (cutLine input).2 := by
  induction input with
  | nil => exact .unended List.not_mem_nil
  | cons byte input inductionHypothesis =>
    by_cases feed : byte = 10
    · subst feed
      simpa [cutLine] using @FirstLine.ended [] input List.not_mem_nil
    · rw [cutLine_cons feed]
      generalize (cutLine input).1 = line at inductionHypothesis
      generalize (cutLine input).2 = rest at inductionHypothesis
      have added : ∀ {line : List UInt8}, 10 ∉ line → 10 ∉ byte :: line :=
        List.not_mem_cons_of_ne_of_not_mem (Ne.symm feed)
      cases inductionHypothesis with
      | ended _ outside => exact .ended _ (added outside)
      | unended outside => exact .unended (added outside)

/-- The line that is read, and the input that is left. -/
theorem readLine_eq {console : Console} {line rest : List UInt8}
    (first : FirstLine console.input line rest) :
    readLine.run console =
      match text? line with
      | some text => .ok text { console with input := rest }
      | none => .error (.io .notUtf8) { console with input := rest } := by
  cases readable : text? line <;>
    simp [EStateM.run, readLine, cutLine_of_firstLine first, readable]

end Console

end TmuxPlan
