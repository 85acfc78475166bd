import Mathlib.Data.List.Basic
import TrialMeter.Command.Compare.Work
import TrialMeter.Proofs.Event.Attributes
import TrialMeter.Proofs.Text.Words
import TrialMeter.Text.Natural

/-!
# What texts tell

Most of what is known of a measurement is told in words: lines of the log, errors, printed records.
The words tell things apart. A number that is written in decimal digits is read back; two kinds are
never worded alike; an error begins with the words for the step that was refused and ends with the
cause that the kernel gave; a printed record has each of its counts once, under a label of its own.

## Main definitions

* `Event.familyWord`, `Event.word`: the two parts of the words for an event.
* `Error.preamble`: the words with which an error begins.

## Main results

* `Text.natural?_toString`, `Text.word64?_toString`: numbers are read back.
* `Event.text_injective`, `Kind.text_injective`: the words for what is counted.
* `Errno.text_injective`, `Error.preamble_eq_of_message_eq`,
  `Error.exists_message_eq_append_cause`: errors.
* `Flags.words_text`: the words for a set of flags.
* `Command.Compare.rows_perm`, `Command.Compare.rowText_isInfix`: printed records.
-/

namespace TrialMeter

/-! ### Numbers -/

namespace Text

theorem digit?_of_isDigit {c : Char} (h : c.isDigit) : digit? c = some (c.toNat - '0'.toNat) := by
  rw [Char.isDigit, Bool.and_eq_true, decide_eq_true_iff, decide_eq_true_iff] at h
  exact if_pos h

/-- Digits are read from the left. -/
theorem appendDigits_eq {digits : List Char} (h : ∀ c ∈ digits, c.isDigit) (value : ℕ) :
    appendDigits value digits = some (Nat.ofDigitChars 10 digits value) := by
  induction digits generalizing value with
  | nil => rfl
  | cons c digits ih =>
    obtain ⟨hc, hdigits⟩ := List.forall_mem_cons.mp h
    rw [appendDigits, digit?_of_isDigit hc]
    exact ih hdigits _

/-- A number is written as a digit and perhaps more digits. -/
theorem exists_toList_toString (n : ℕ) : ∃ c rest, (toString n).toList = c :: rest ∧
    Nat.toDigits 10 n = c :: rest ∧ ∀ d ∈ c :: rest, d.isDigit := by
  obtain ⟨c, rest, hlist⟩ := List.exists_cons_of_ne_nil (Nat.toDigits_ne_nil (n := n) (b := 10))
  refine ⟨c, rest, ?_, hlist, fun d hd => ?_⟩
  · rw [Nat.toString_eq_ofList_toDigits, String.toList_ofList, hlist]
  · exact Nat.isDigit_of_mem_toDigits (by decide) (by decide) (hlist ▸ hd)

/-- A number that is written in decimal digits is read back. -/
theorem natural?_toString (n : ℕ) : natural? (toString n) = some n := by
  obtain ⟨c, rest, htext, hlist, hdigits⟩ := exists_toList_toString n
  have hread : appendDigits 0 (c :: rest) = some n := by
    rw [appendDigits_eq hdigits, ← hlist, Nat.ofDigitChars_toDigits (by decide) (by decide)]
  have hplus : c ≠ '+' := by
    rintro rfl
    exact absurd (hdigits '+' List.mem_cons_self) (by decide)
  rw [natural?, htext]
  split
  · rename_i h
    exact absurd (List.cons.inj h).1 hplus
  · exact hread

theorem word64?_toString {n : ℕ} (h : n < UInt64.size) : word64? (toString n) = some n := by
  rw [word64?, natural?_toString, Option.filter_some, decide_eq_true h]
  rfl

end Text

/-! ### Kinds -/

/-- What stands before the first occurrence of a member, and what behind it. -/
theorem append_cons_inj {α : Type} [DecidableEq α] {c : α} {a a' b b' : List α} (ha : c ∉ a)
    (ha' : c ∉ a') (h : a ++ c :: b = a' ++ c :: b') : a = a' ∧ b = b' := by
  have hlength : a.length = a'.length := by
    have hplace := congrArg (List.idxOf c) h
    rwa [List.idxOf_append_of_notMem ha, List.idxOf_append_of_notMem ha', List.idxOf_cons_self,
      List.idxOf_cons_self] at hplace
  obtain ⟨hfirst, hrest⟩ := List.append_inj h hlength
  exact ⟨hfirst, (List.cons.inj hrest).2⟩

/-- Two texts that are joined by a third are found again, if the first of them lacks the character
with which the third begins. -/
theorem append_inj_of_notMem {sep a a' b b' : String} {c : Char}
    (hsep : sep.toList.head? = some c) (ha : c ∉ a.toList) (ha' : c ∉ a'.toList)
    (h : a ++ sep ++ b = a' ++ sep ++ b') : a = a' ∧ b = b' := by
  obtain ⟨rest, hrest⟩ := List.head?_eq_some_iff.mp hsep
  have hlist : a.toList ++ c :: (rest ++ b.toList) = a'.toList ++ c :: (rest ++ b'.toList) := by
    have htext := congrArg String.toList h
    simpa only [String.toList_append, hrest, List.append_assoc, List.cons_append] using htext
  obtain ⟨hfirst, hlast⟩ := append_cons_inj ha ha' hlist
  exact ⟨String.toList_inj.mp hfirst, String.toList_inj.mp (List.append_cancel_left hlast)⟩

/-- A text without blanks and colons. -/
def IsName (s : String) : Prop := ' ' ∉ s.toList ∧ ':' ∉ s.toList

instance (s : String) : Decidable (IsName s) := inferInstanceAs (Decidable (_ ∧ _))

theorem HardwareEvent.isName_name (e : HardwareEvent) : IsName e.name := by cases e <;> decide

theorem SoftwareEvent.isName_name (e : SoftwareEvent) : IsName e.name := by cases e <;> decide

theorem Cache.isName_name (c : Cache) : IsName c.name := by cases c <;> decide

theorem CacheOperation.isName_name (o : CacheOperation) : IsName o.name := by cases o <;> decide

theorem CacheResult.isName_name (r : CacheResult) : IsName r.name := by cases r <;> decide

namespace Event

/-- The word for the family of an event. -/
def familyWord : Event → String
  | hardware _ => "hardware"
  | software _ => "software"
  | cache _ => "cache"

/-- The word for an event within its family. -/
def word : Event → String
  | hardware e => e.name
  | software e => e.name
  | cache e => e.cache.name ++ ":" ++ (e.operation.name ++ ":" ++ e.result.name)

theorem isName_familyWord (e : Event) : IsName e.familyWord := by
  cases e with
  | hardware _ | software _ | cache _ => simp only [familyWord]; decide

theorem text_eq (e : Event) : e.text = e.familyWord ++ ":" ++ e.word := by
  cases e with
  | hardware e => rfl
  | software e => rfl
  | cache e =>
    change "cache" ++ ":" ++ e.cache.name ++ ":" ++ e.operation.name ++ ":" ++ e.result.name = _
    simp only [familyWord, word, String.append_assoc]

theorem text_injective : Function.Injective text := by
  intro a b h
  rw [text_eq, text_eq] at h
  obtain ⟨hfamily, hrest⟩ :=
    append_inj_of_notMem rfl a.isName_familyWord.2 b.isName_familyWord.2 h
  cases a with
  | hardware a =>
    cases b with
    | hardware b => exact congrArg hardware (HardwareEvent.name_injective hrest)
    | _ => simp [familyWord] at hfamily
  | software a =>
    cases b with
    | software b => exact congrArg software (SoftwareEvent.name_injective hrest)
    | _ => simp [familyWord] at hfamily
  | cache a =>
    cases b with
    | cache b =>
      obtain ⟨cache, operation, result⟩ := a
      obtain ⟨cache', operation', result'⟩ := b
      obtain ⟨hcache, hrest⟩ :=
        append_inj_of_notMem rfl cache.isName_name.2 cache'.isName_name.2 hrest
      obtain ⟨hoperation, hresult⟩ :=
        append_inj_of_notMem rfl operation.isName_name.2 operation'.isName_name.2 hrest
      obtain rfl := Cache.name_injective hcache
      obtain rfl := CacheOperation.name_injective hoperation
      obtain rfl := CacheResult.name_injective hresult
      rfl
    | _ => simp [familyWord] at hfamily

theorem blank_notMem_text (e : Event) : ' ' ∉ e.text.toList := by
  have hword : ' ' ∉ e.word.toList := by
    cases e with
    | hardware e => exact e.isName_name.1
    | software e => exact e.isName_name.1
    | cache e =>
      simp [word, e.cache.isName_name.1, e.operation.isName_name.1, e.result.isName_name.1]
  rw [text_eq]
  simp [e.isName_familyWord.1, hword]

end Event

/-- Different kinds are worded differently. -/
theorem Kind.text_injective : Function.Injective Kind.text := by
  rintro ⟨event, domain⟩ ⟨event', domain'⟩ h
  have hsplit (e : Event) (d : Domain) : Kind.text ⟨e, d⟩ = e.text ++ " (" ++ (d.text ++ ")") :=
    String.append_assoc
  rw [hsplit, hsplit] at h
  obtain ⟨hevent, hdomain⟩ :=
    append_inj_of_notMem rfl event.blank_notMem_text event'.blank_notMem_text h
  have htext := congrArg String.toList hdomain
  rw [String.toList_append, String.toList_append] at htext
  obtain rfl := Event.text_injective hevent
  obtain rfl := Domain.text_injective
    (String.toList_inj.mp (List.append_cancel_right htext))
  rfl

/-! ### Errors -/

/-- Different error numbers are worded differently. -/
theorem Errno.text_injective : Function.Injective Errno.text := by
  intro a b h
  -- The number is found from the end, since its digits are no blanks.
  have hreverse (e : Errno) : e.text.toList.reverse = ')' :: ((toString e.code).toList.reverse ++
      ' ' :: ("rorre so( ".toList ++ e.description.toList.reverse)) := by
    simp [text]
  have hblank (n : ℕ) : ' ' ∉ (toString n).toList.reverse := by
    obtain ⟨c, rest, htext, -, hdigits⟩ := Text.exists_toList_toString n
    rw [List.mem_reverse, htext]
    exact fun hmem => absurd (hdigits ' ' hmem) (by decide)
  have hlist := congrArg (fun s => s.toList.reverse) h
  simp only [hreverse] at hlist
  obtain ⟨hdigits, -⟩ := append_cons_inj (hblank a.code) (hblank b.code) (List.cons.inj hlist).2
  have hcode := congrArg Text.natural? (String.toList_inj.mp (List.reverse_inj.mp hdigits))
  rw [Text.natural?_toString, Text.natural?_toString] at hcode
  exact congrArg Errno.mk (Option.some.inj hcode)

namespace Error

/-- The words for the step that was refused. -/
def preamble : Error → String
  | clock .. => "failed to read clock "
  | opening .. => "failed to open counter "
  | notOpen => "counter has no open descriptor"
  | controlling _ => "counter control operation failed: "
  | reading _ => "failed to read counter: "
  | childAttr _ => "failed to initialise spawn attributes: "
  | spawning .. => "failed to spawn "
  | waiting .. => "failed to wait for process "
  | interiorNul _ => "argument contains an interior NUL byte: "
  | duplicateKind _ => "counter group already holds a member of kind "

/-- All these words. -/
def preambles : List String :=
  ["failed to read clock ", "failed to open counter ", "counter has no open descriptor",
    "counter control operation failed: ", "failed to read counter: ",
    "failed to initialise spawn attributes: ", "failed to spawn ", "failed to wait for process ",
    "argument contains an interior NUL byte: ", "counter group already holds a member of kind "]

theorem preamble_mem (e : Error) : e.preamble ∈ preambles := by
  cases e <;> simp [preamble, preambles]

theorem exists_message_eq (e : Error) : ∃ rest, e.message = e.preamble ++ rest := by
  cases e with
  | clock source cause =>
    refine ⟨source.name ++ (": " ++ cause.text), ?_⟩
    change "failed to read clock " ++ source.name ++ ": " ++ cause.text = _
    rw [String.append_assoc, String.append_assoc]
    rfl
  | opening counter subject cause =>
    refine ⟨counter ++ (" for " ++ (subject.text ++ (": " ++ cause.text))), ?_⟩
    change "failed to open counter " ++ counter ++ " for " ++ subject.text ++ ": " ++ cause.text = _
    rw [String.append_assoc, String.append_assoc, String.append_assoc, String.append_assoc]
    rfl
  | spawning program cause =>
    refine ⟨program ++ (": " ++ cause.text), ?_⟩
    change "failed to spawn " ++ program ++ ": " ++ cause.text = _
    rw [String.append_assoc, String.append_assoc]
    rfl
  | waiting pid cause =>
    refine ⟨toString pid ++ (": " ++ cause.text), ?_⟩
    change "failed to wait for process " ++ toString pid ++ ": " ++ cause.text = _
    rw [String.append_assoc, String.append_assoc]
    rfl
  | notOpen => exact ⟨"", String.append_empty.symm⟩
  | _ => exact ⟨_, rfl⟩

/-- None of the words begin others. -/
theorem eq_of_preambles_isPrefix : ∀ a ∈ preambles, ∀ b ∈ preambles,
    a.toList <+: b.toList → a = b := by
  decide +kernel

/-- The message of an error tells the step that was refused. -/
theorem preamble_eq_of_message_eq {a b : Error} (h : a.message = b.message) :
    a.preamble = b.preamble := by
  obtain ⟨rest, hrest⟩ := a.exists_message_eq
  obtain ⟨rest', hrest'⟩ := b.exists_message_eq
  have hprefix : a.preamble.toList <+: a.message.toList := by
    rw [hrest, String.toList_append]
    exact List.prefix_append _ _
  have hprefix' : b.preamble.toList <+: a.message.toList := by
    rw [h, hrest', String.toList_append]
    exact List.prefix_append _ _
  rcases List.prefix_or_prefix_of_prefix hprefix hprefix' with hab | hba
  · exact eq_of_preambles_isPrefix _ a.preamble_mem _ b.preamble_mem hab
  · exact (eq_of_preambles_isPrefix _ b.preamble_mem _ a.preamble_mem hba).symm

/-- The message of an error ends with the cause that the kernel gave. -/
theorem exists_message_eq_append_cause {e : Error} {cause : Cause} (h : e.cause? = some cause) :
    ∃ before, e.message = before ++ cause.text := by
  cases e with
  | notOpen | interiorNul _ | duplicateKind _ => exact absurd h nofun
  | _ =>
    obtain rfl := Option.some.inj h
    exact ⟨_, rfl⟩

end Error

/-! ### Flags -/

/-- The names of the flags of a set are found again in its text, with bars between them. -/
theorem Flags.words_text {s : Flags} (h : s.toList ≠ []) :
    Text.words s.text = (s.toList.map Flag.name).intersperse "|" := by
  have hword {w : String} (hne : w.toList ≠ [])
      (hall : (w.toList.all fun c => Text.isBlank c == false) = true) : Text.IsWord w :=
    ⟨hne, fun c hc => eq_of_beq (List.all_eq_true.mp hall c hc)⟩
  have hflag (f : Flag) : Text.IsWord f.name :=
    hword (by cases f <;> decide) (by cases f <;> decide)
  have hbar : Text.IsWord "|" := hword (by decide) (by decide)
  have hwords (flags : List Flag) : Text.words (" | ".intercalate (flags.map Flag.name)) =
      (flags.map Flag.name).intersperse "|" := by
    induction flags with
    | nil => rfl
    | cons f flags ih =>
      cases flags with
      | nil => exact (congrArg Text.words String.intercalate_singleton).trans (hflag f).words_eq
      | cons next flags =>
        have hsplit (rest : String) : f.name ++ " | " ++ rest =
            f.name ++ " " ++ ("|" ++ " " ++ rest) := by
          have hsep : " | " = " " ++ ("|" ++ " ") := rfl
          simp only [hsep, String.append_assoc]
        rw [List.map_cons, List.map_cons, String.intercalate_cons_cons, hsplit,
          (hflag f).words_append, hbar.words_append, ← List.map_cons, ih]
        rfl
  rw [← hwords, text]
  cases hlist : s.toList with
  | nil => exact absurd hlist h
  | cons f flags => rfl

/-! ### Printed records -/

namespace Command.Compare

/-- Every count of a record is printed once. -/
theorem rows_perm (r : Record) : ((rows r).map Prod.snd).Perm r.counters :=
  .cons _ (.cons _ (@List.perm_middle _ r.cacheMisses
    [r.totalBranches, r.branchMisses, r.totalCycles, r.cpuTime, r.contextSwitches, r.migrations]
    [r.l1Cache, r.l1tCache, r.llCache, r.access, r.bpu]))

/-- Every count has a label of its own. -/
theorem nodup_labels (r : Record) : ((rows r).map Prod.fst).Nodup := by
  have hlabels : (rows r).map Prod.fst = (rows {}).map Prod.fst := rfl
  rw [hlabels]
  decide

/-- A printed row tells its count. -/
theorem rowText_inj {label : String} {a b : UInt64} :
    rowText (label, a) = rowText (label, b) ↔ a = b := by
  refine ⟨fun h => ?_, fun h => h ▸ rfl⟩
  have hlist := congrArg String.toList h
  simp only [rowText, String.toList_append] at hlist
  have htext := List.append_cancel_left (List.append_cancel_right hlist)
  have hcount := congrArg Text.natural? (String.toList_inj.mp htext)
  rw [Text.natural?_toString, Text.natural?_toString] at hcount
  exact UInt64.toNat_inj.mp (Option.some.inj hcount)

/-- Every row of a record is printed. -/
theorem rowText_isInfix {o : Options} {winner : Bool} {r : Record} {row : String × UInt64}
    (h : row ∈ rows r) : (rowText row).toList <:+: (recordText o winner r).toList := by
  have hrow : rowText row ∈ (rows r).map rowText := List.mem_map_of_mem h
  unfold recordText
  rw [String.toList_append, String.toList_join, List.flatMap_def]
  exact (List.infix_of_mem_flatten (List.mem_map_of_mem hrow)).trans
    (List.suffix_append _ _).isInfix

/-- The mark of the winner shows. -/
theorem length_recordText_winner (o : Options) (r : Record) :
    (recordText o true r).length = (recordText o false r).length + 10 := by
  have hmark : (" <- winner" : String).length = 10 := by decide
  have hnone : ("" : String).length = 0 := by decide
  unfold recordText
  simp only [String.length_append, if_true, Bool.false_eq_true, if_false, hmark, hnone]
  omega

end Command.Compare

end TrialMeter
