import FieldSchema.Text.Casing

/-!
# Lower case is stable

A text that was brought to lower case is not changed by bringing it to lower case again.  This is a
fact about the case map: no run of the map moves an image of a run.  The runs are compared two by
two.  Most of them lie apart; where they do not, as in the alphabets in which capitals and small
letters alternate, every second code point is moved and the images are the others.

* `ShiftRun.avoids`: two runs of which the second moves no image of the first.
* `toLower_toLower`, `lowercase_lowercase`: lower case is stable.
* `isAsciiUpper_of_mem_lowercase`: no capital letter is left.
-/

namespace FieldSchema.Text

/-! ## Runs -/

namespace ShiftRun

/-- Where a run moves a code point. -/
def image (run : ShiftRun) (code : Nat) : Nat := (code + run.shift).toNat

/-- The images of a run lie apart from another run, or between the code points that it moves. -/
def avoids (run other : ShiftRun) : Bool :=
  Nat.blt (run.image run.last) other.first || Nat.blt other.last (run.image run.first) ||
    (other.step % 2 == 0 && (run.step % 2 == 0 || run.first == run.last) &&
      (run.image run.first + other.first) % 2 == 1)

/-- What steps of an even length lead over is even. -/
theorem mod_two_of_mod_step {n step : Nat} (hstep : step % 2 = 0) (hn : n % step = 0) :
    n % 2 = 0 :=
  Nat.mod_eq_zero_of_dvd (Nat.dvd_trans (Nat.dvd_of_mod_eq_zero hstep) (Nat.dvd_of_mod_eq_zero hn))

/-- A run that avoids another one moves nothing to where the other one moves it on. -/
theorem covers_image_of_avoids {run other : ShiftRun} {code : Nat} (h : run.avoids other = true)
    (hstart : 0 ≤ run.first + run.shift) (hcode : run.covers code = true) :
    other.covers (run.image code) = false := by
  refine eq_false_of_ne_true fun hother => ?_
  simp only [covers, Bool.and_eq_true, decide_eq_true_eq, beq_iff_eq] at hcode hother
  obtain ⟨⟨hfirst, hlast⟩, hstep⟩ := hcode
  obtain ⟨⟨hfirst', hlast'⟩, hstep'⟩ := hother
  simp only [avoids, Bool.or_eq_true, Bool.and_eq_true, Nat.blt_eq, beq_iff_eq] at h
  have himage : run.image code = run.image run.first + (code - run.first) := by
    unfold image
    omega
  rcases h with (hbelow | habove) | ⟨⟨heven, hsteps⟩, hodd⟩
  · have : run.image code ≤ run.image run.last := by
      unfold image
      omega
    omega
  · omega
  · -- The images and what the other run moves have different parities.
    have hcodeEven : (code - run.first) % 2 = 0 := by
      rcases hsteps with hrun | hsingle
      · exact mod_two_of_mod_step hrun hstep
      · omega
    have := mod_two_of_mod_step heven hstep'
    omega

end ShiftRun

/-! ## The case map -/

/-- The runs of code points that have a lower case, those of ASCII first. -/
def loweringRuns : List ShiftRun := ⟨0x41, 0x5A, 1, 32⟩ :: lowerTable.toList

theorem avoids_of_mem_loweringRuns :
    ∀ run ∈ loweringRuns, 0 ≤ run.first + run.shift ∧
      ∀ other ∈ loweringRuns, run.avoids other = true := by
  have hall : (loweringRuns.all fun run =>
      decide (0 ≤ run.first + run.shift) && loweringRuns.all run.avoids) = true := by
    decide +kernel
  simpa only [List.all_eq_true, Bool.and_eq_true, decide_eq_true_eq] using hall

/-- The lower case of a code point is where the first run that moves it leads. -/
theorem toLower_eq (code : Nat) :
    toLower code = (loweringRuns.find? (·.covers code)).elim code (·.image code) := by
  have hascii : (ShiftRun.mk 0x41 0x5A 1 32).covers code = isAsciiUpper code := by
    simp [ShiftRun.covers, isAsciiUpper, Nat.mod_one]
  rw [loweringRuns, List.find?_cons, hascii, toLower]
  split
  · have habove : ∀ run ∈ lowerTable.toList, 0x80 ≤ run.first := by decide +kernel
    have hnone : lowerTable.toList.find? (·.covers code) = none := by
      refine List.find?_eq_none.mpr fun run hrun hcovers => ?_
      have hfirst := habove run hrun
      simp only [ShiftRun.covers, Bool.and_eq_true, decide_eq_true_eq] at hcovers
      omega
    rw [hnone]
    cases isAsciiUpper code <;> rfl
  · have hupper : isAsciiUpper code = false := by
      unfold isAsciiUpper
      rw [Bool.and_eq_false_iff, decide_eq_false_iff_not, decide_eq_false_iff_not]
      omega
    rw [hupper, ShiftTable.apply, ← Array.find?_toList]
    dsimp only
    cases lowerTable.toList.find? (·.covers code) <;> rfl

theorem toLower_toLower (code : Nat) : toLower (toLower code) = toLower code := by
  rw [toLower_eq code]
  cases hfound : loweringRuns.find? (·.covers code) with
  | none => rw [Option.elim_none, toLower_eq, hfound, Option.elim_none]
  | some run =>
    have hcovers : run.covers code = true := by simpa using List.find?_some hfound
    obtain ⟨hstart, havoids⟩ := avoids_of_mem_loweringRuns run (List.mem_of_find?_eq_some hfound)
    have hstays : loweringRuns.find? (·.covers (run.image code)) = none := by
      refine List.find?_eq_none.mpr fun other hother => ?_
      rw [ShiftRun.covers_image_of_avoids (havoids other hother) hstart hcovers]
      exact Bool.false_ne_true
    rw [Option.elim_some, toLower_eq, hstays, Option.elim_none]

/-! ## Texts -/

/-- A character of a code point has this code point, or stands for what is no character. -/
theorem toNat_ofNat_or (code : Nat) :
    (Char.ofNat code).toNat = code ∨ Char.ofNat code = '\x00' := by
  by_cases hvalid : code.isValidChar
  · rw [Char.ofNat, dif_pos hvalid]
    exact .inl rfl
  · exact .inr (dif_neg hvalid)

/-- The lower case of a character consists of characters that are their own lower case. -/
theorem toLower_of_mem_lowerAt {before after : List Char} {c d : Char}
    (h : d ∈ lowerAt before c after) : toLower d.toNat = d.toNat := by
  unfold lowerAt at h
  split at h
  · obtain rfl := List.mem_singleton.mp h
    split <;> rw [toLower_eq] <;> decide +kernel
  · split at h
    · rcases List.mem_cons.mp h with rfl | hdot
      · rw [toLower_eq]
        decide +kernel
      · obtain rfl := List.mem_singleton.mp hdot
        rw [toLower_eq]
        decide +kernel
    · obtain rfl := List.mem_singleton.mp h
      rcases toNat_ofNat_or (toLower c.toNat) with hcode | hnone
      · rw [hcode, toLower_toLower]
      · rw [hnone, toLower_eq]
        decide +kernel

theorem toLower_of_mem_lowercaseFrom {before chars : List Char} {d : Char}
    (h : d ∈ lowercaseFrom before chars) : toLower d.toNat = d.toNat := by
  induction chars generalizing before with
  | nil => cases h
  | cons c rest ih =>
    rcases List.mem_append.mp h with hfirst | hrest
    · exact toLower_of_mem_lowerAt hfirst
    · exact ih hrest

/-- No capital letter is left in lower case. -/
theorem isAsciiUpper_of_mem_lowercase {text : String} {d : Char}
    (h : d ∈ (lowercase text).toList) : isAsciiUpper d.toNat = false := by
  rw [lowercase, String.toList_ofList] at h
  have hlower := toLower_of_mem_lowercaseFrom h
  cases hupper : isAsciiUpper d.toNat with
  | false => rfl
  | true =>
    have hascii : d.toNat < 0x80 := by
      simp only [isAsciiUpper, Bool.and_eq_true, decide_eq_true_eq] at hupper
      omega
    rw [toLower, if_pos hascii, if_pos hupper] at hlower
    omega

/-- A character that is its own lower case stays, wherever it stands. -/
theorem lowerAt_of_toLower {before after : List Char} {c : Char} (h : toLower c.toNat = c.toNat) :
    lowerAt before c after = [c] := by
  have hmoved : ∀ code, toLower code ≠ code → (c.toNat == code) = false := by
    intro code hcode
    refine beq_eq_false_iff_ne.mpr ?_
    rintro rfl
    exact hcode h
  have hsigma : toLower 0x3A3 ≠ 0x3A3 := by
    rw [toLower_eq]
    decide +kernel
  have hdotted : toLower 0x130 ≠ 0x130 := by
    rw [toLower_eq]
    decide +kernel
  rw [lowerAt, hmoved 0x3A3 hsigma, hmoved 0x130 hdotted, h, Char.ofNat_toNat]
  rfl

theorem lowercaseFrom_of_forall {before chars : List Char}
    (h : ∀ c ∈ chars, toLower c.toNat = c.toNat) : lowercaseFrom before chars = chars := by
  induction chars generalizing before with
  | nil => rfl
  | cons c rest ih =>
    obtain ⟨hc, hrest⟩ := List.forall_mem_cons.mp h
    rw [lowercaseFrom, lowerAt_of_toLower hc, ih hrest]
    rfl

/-- **Lower case is stable.** -/
theorem lowercase_lowercase (text : String) : lowercase (lowercase text) = lowercase text := by
  rw [lowercase, lowercase, String.toList_ofList,
    lowercaseFrom_of_forall fun c hc => toLower_of_mem_lowercaseFrom hc]

end FieldSchema.Text
