import ClusterHealth.Proofs.Course
import ClusterHealth.Proofs.Text.Pattern
import ClusterHealth.Rehearsal.Md5
import ClusterHealth.Transfer.Probe

/-! The output of the digest command is accepted exactly in the form that the command prints. -/
namespace ClusterHealth
namespace Digest

theorem toList_line (d : Digest) (path : String) :
    (d.line path).toList = d.chars ++ ' ' :: ' ' :: (path.toList ++ ['\n']) := by
  simp [line, text, toString]

theorem ofChars?_chars (d : Digest) : ofChars? d.chars = some d := by
  have hd : d.chars.all isDigestChar := List.all_eq_true.2 d.digits
  simp [ofChars?, d.length_eq, hd]

theorem not_isBlank {c : Char} (h : isDigestChar c) : Text.isBlank c = false := by
  simp only [isDigestChar, Bool.or_eq_true, Bool.and_eq_true, decide_eq_true_eq, Char.le_def,
    UInt32.le_iff_toNat_le] at h
  simp only [Text.isBlank, Text.inRanges, Text.blankRanges, Char.toNat, List.any_cons,
    List.any_nil, Bool.or_false, Bool.or_eq_false_iff, Bool.and_eq_false_iff,
    decide_eq_false_iff_not]
  have h0 : '0'.val.toNat = 48 := rfl
  have h9 : '9'.val.toNat = 57 := rfl
  have ha : 'a'.val.toNat = 97 := rfl
  have hf : 'f'.val.toNat = 102 := rfl
  omega

theorem blank_line (d : Digest) (path : String) : Text.blank (d.line path) = false := by
  obtain ⟨c, hc⟩ := List.exists_mem_of_length_pos (by rw [d.length_eq]; decide : 0 < d.chars.length)
  rw [Text.blank, List.all_eq_false]
  exact ⟨c, by simp [toList_line, hc], by simp [not_isBlank (d.digits c hc)]⟩

/-! The pattern of the output, read from its text. -/

open Text.Pattern (Item Spells single escape)

def outputItems (path : String) : Text.Pattern :=
  .start :: .run [('0', '9'), ('a', 'f')] 32 :: single ' ' :: single ' ' ::
    (path.toList.map single ++ [single '\n', .stop])

theorem toList_outputPattern (path : String) :
    (outputPattern path).toList =
      ['^', '[', '0', '-', '9', 'a', '-', 'f', ']', '\x7b', '3', '2', '\x7d', ' ', ' '] ++
        (path.toList.flatMap Text.Pattern.escapeChar ++ ['\n', '$']) := by
  simp [outputPattern, escape]

/-- Whatever the path is, the pattern is read as the items around its characters. -/
theorem parse?_outputPattern (path : String) :
    Text.Pattern.parse? (outputPattern path) = some (outputItems path) := by
  refine Text.Pattern.parse?_of_spells ?_ ?_
  · rw [toList_outputPattern]
    refine Spells.cons rfl (Spells.cons rfl ?_)
    exact @Spells.escape (' ' :: ' ' :: path.toList) _ _ (by decide)
      (Spells.cons rfl (Spells.cons rfl Spells.nil))
  · have hpath := Text.Pattern.length_le_flatMap_escapeChar path.toList
    simp only [toList_outputPattern, outputItems, List.length_cons, List.length_append,
      List.length_map, List.length_nil]
    omega

theorem inSet_digits (c : Char) :
    Text.Pattern.inSet [('0', '9'), ('a', 'f')] c = isDigestChar c := by
  simp [Text.Pattern.inSet, isDigestChar]

/-- The pattern matches what the digest command prints and nothing else. -/
theorem occursIn_outputItems {output path : String} :
    (outputItems path).occursIn output ↔ ∃ d : Digest, output = d.line path := by
  rw [outputItems, Text.Pattern.occursIn_start, Text.Pattern.matchesHere_run]
  constructor
  · rintro ⟨chars, behind, houtput, hlength, hdigits, hbehind⟩
    obtain ⟨_, rfl, hsecond⟩ := Text.Pattern.matchesHere_single.1 hbehind
    obtain ⟨_, rfl, hpath⟩ := Text.Pattern.matchesHere_single.1 hsecond
    obtain ⟨_, rfl, hbreak⟩ := Text.Pattern.matchesHere_singles.1 hpath
    obtain ⟨_, rfl, hstop⟩ := Text.Pattern.matchesHere_single.1 hbreak
    obtain rfl := Text.Pattern.matchesHere_stop.1 hstop
    refine ⟨⟨chars, hlength, fun c hc => inSet_digits c ▸ hdigits c hc⟩, ?_⟩
    rw [← String.toList_inj, houtput, toList_line]
  · rintro ⟨d, rfl⟩
    refine ⟨d.chars, _, toList_line d path, d.length_eq, fun c hc => ?_, ?_⟩
    · rw [inSet_digits]
      exact d.digits c hc
    · refine Text.Pattern.matchesHere_single.2 ⟨_, rfl, Text.Pattern.matchesHere_single.2
        ⟨_, rfl, Text.Pattern.matchesHere_singles.2 ⟨_, rfl, ?_⟩⟩⟩
      exact Text.Pattern.matchesHere_single.2 ⟨_, rfl, Text.Pattern.matchesHere_stop.2 rfl⟩

theorem utf8Size_of_digestChar {c : Char} (h : isDigestChar c) : c.utf8Size = 1 := by
  simp only [isDigestChar, Bool.or_eq_true, Bool.and_eq_true, decide_eq_true_eq, Char.le_def,
    UInt32.le_iff_toNat_le] at h
  have h9 : '9'.val.toNat = 57 := rfl
  have hf : 'f'.val.toNat = 102 := rfl
  rw [Char.utf8Size_eq_one_iff, UInt32.le_iff_toNat_le]
  have hbound : (127 : UInt32).toNat = 127 := rfl
  omega

/-- A cut behind characters of one byte each cuts nothing in two. -/
theorem takeBytes?_append {chars rest : List Char} (h : ∀ c ∈ chars, c.utf8Size = 1) :
    Text.takeBytes? chars.length (chars ++ rest) = some chars := by
  induction chars with
  | nil => simp [Text.takeBytes?]
  | cons c chars ih =>
    have hc : c.utf8Size = 1 := h c List.mem_cons_self
    have hrest := ih fun d hd => h d (List.mem_cons_of_mem c hd)
    simp [Text.takeBytes?, hc, hrest]

theorem takeBytes?_line (d : Digest) (path : String) :
    Text.takeBytes? 32 (d.line path).toList = some d.chars := by
  rw [toList_line, ← d.length_eq]
  exact takeBytes?_append fun c hc => utf8Size_of_digestChar (d.digits c hc)

theorem ofOutput_line (d : Digest) (path : String) : ofOutput (d.line path) path = .ok d := by
  have hpattern : (outputItems path).occursIn (d.line path) := occursIn_outputItems.2 ⟨d, rfl⟩
  simp [ofOutput, blank_line, parse?_outputPattern, hpattern, takeBytes?_line, ofChars?_chars]

theorem line_inj {d d' : Digest} {path : String} : d.line path = d'.line path ↔ d = d' := by
  constructor
  · intro h
    have houtput := ofOutput_line d path
    rw [h, ofOutput_line] at houtput
    exact (Except.ok.inj houtput).symm
  · intro h
    subst h
    rfl

theorem ofOutput_eq_ok {output path : String} {d : Digest} :
    ofOutput output path = .ok d ↔ output = d.line path := by
  constructor
  · intro h
    unfold ofOutput at h
    rw [parse?_outputPattern, Option.any_some] at h
    split at h
    · cases h
    · split at h
      · rename_i hpattern
        obtain ⟨d', rfl⟩ := occursIn_outputItems.1 hpattern
        rw [takeBytes?_line, Option.bind_some, ofChars?_chars] at h
        exact congrArg (line · path) (Except.ok.inj h)
      · cases h
  · intro h
    subst h
    exact ofOutput_line d path

/-- Output that is not accepted is either blank or a mismatch. -/
theorem ofOutput_of_refused {output path : String} (h : ∀ d : Digest, output ≠ d.line path) :
    ofOutput output path =
      if Text.blank output then .error (.empty path) else .error (.mismatch path output) := by
  have hpattern : (outputItems path).occursIn output = false := by
    rw [Bool.eq_false_iff, ne_eq, occursIn_outputItems]
    rintro ⟨d, hline⟩
    exact h d hline
  simp [ofOutput, parse?_outputPattern, hpattern]

theorem exists_text_eq {text : String} :
    (∃ d : Digest, d.text = text) ↔
      text.toList.length = 32 ∧
        ∀ c ∈ text.toList, ('0' ≤ c ∧ c ≤ '9') ∨ ('a' ≤ c ∧ c ≤ 'f') := by
  constructor
  · rintro ⟨d, rfl⟩
    rw [text, String.toList_ofList]
    exact ⟨d.length_eq, fun c hc => by simpa [isDigestChar] using d.digits c hc⟩
  · rintro ⟨hlength, hdigits⟩
    exact ⟨⟨text.toList, hlength, fun c hc => by simpa [isDigestChar] using hdigits c hc⟩,
      String.ofList_toList⟩

/-- Output is accepted if it is thirty-two small hexadecimal digits, two spaces, the path and a
line break, and these digits are read. Other output is reported as empty if it is blank, and as a
mismatch otherwise. -/
theorem ofOutput_grammar (output path : String) :
    (∀ digits : String, (∃ d : Digest, d.text = digits ∧ ofOutput output path = .ok d) ↔
      (digits.toList.length = 32 ∧
        ∀ c ∈ digits.toList, ('0' ≤ c ∧ c ≤ '9') ∨ ('a' ≤ c ∧ c ≤ 'f')) ∧
      output = digits ++ "  " ++ path ++ "\n") ∧
    (ofOutput output path = .error (.empty path) ↔ ∀ c ∈ output.toList, Text.isBlank c) ∧
    (ofOutput output path = .error (.mismatch path output) ↔
      (∃ c ∈ output.toList, ¬Text.isBlank c) ∧
        ∀ d : Digest, output ≠ d.text ++ "  " ++ path ++ "\n") := by
  have hline (d : Digest) : d.line path = d.text ++ "  " ++ path ++ "\n" := rfl
  have hblank : Text.blank output = true ↔ ∀ c ∈ output.toList, Text.isBlank c := List.all_eq_true
  have hnot : Text.blank output = false ↔ ∃ c ∈ output.toList, ¬Text.isBlank c :=
    List.all_eq_false
  simp only [← hline]
  refine ⟨fun digits => ?_, ?_⟩
  · rw [← exists_text_eq]
    constructor
    · rintro ⟨d, rfl, hd⟩
      exact ⟨⟨d, rfl⟩, ofOutput_eq_ok.1 hd⟩
    · rintro ⟨⟨d, rfl⟩, houtput⟩
      exact ⟨d, rfl, ofOutput_eq_ok.2 houtput⟩
  · rw [← hblank, ← hnot]
    by_cases haccepted : ∃ d : Digest, output = d.line path
    · obtain ⟨d, rfl⟩ := haccepted
      rw [ofOutput_line, blank_line]
      refine ⟨by simp, ?_⟩
      simp only [reduceCtorEq, false_iff, not_and]
      exact fun _ hnone => hnone d rfl
    · rw [ofOutput_of_refused fun d hd => haccepted ⟨d, hd⟩]
      have hnone (d : Digest) : output ≠ d.line path := fun hd => haccepted ⟨d, hd⟩
      cases Text.blank output with
      | true => simp
      | false => simp [hnone]

end Digest

namespace Rehearsal.Md5
open Text (Bytes)

theorem littleEndian_length (size n : Nat) : (littleEndian size n).length = size := by
  simp [littleEndian]

theorem digest_length (content : Bytes) : (digest content).length = 16 := by
  simp [digest, littleEndian_length]

def hexChars (bytes : Bytes) : List Char :=
  bytes.flatMap fun b => [Nat.digitChar (b.toNat / 16), Nat.digitChar (b.toNat % 16)]

theorem hexChars_length (bytes : Bytes) : (hexChars bytes).length = 2 * bytes.length := by
  induction bytes with
  | nil => rfl
  | cons b rest ih =>
    simp only [hexChars, List.flatMap_cons, List.length_append, List.length_cons, List.length_nil]
      at ih ⊢
    omega

theorem isDigestChar_digitChar : ∀ n < 16, isDigestChar (Nat.digitChar n) := by decide

theorem isDigestChar_hexChars {bytes : Bytes} {c : Char} (hc : c ∈ hexChars bytes) :
    isDigestChar c := by
  simp only [hexChars, List.mem_flatMap, List.mem_cons, List.not_mem_nil, or_false] at hc
  obtain ⟨b, -, rfl | rfl⟩ := hc
  · have hb : b.toNat < 256 := b.toNat_lt
    exact isDigestChar_digitChar _ (by omega)
  · exact isDigestChar_digitChar _ (by omega)

def digestOf (content : Bytes) : Digest where
  chars := hexChars (digest content)
  length_eq := by rw [hexChars_length, digest_length]
  digits _ := isDigestChar_hexChars

end Rehearsal.Md5
end ClusterHealth
