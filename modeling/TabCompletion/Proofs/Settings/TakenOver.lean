import Mathlib
import TabCompletion.Proofs.Binary64.Rounding
import TabCompletion.Proofs.Json.Members
import TabCompletion.Proofs.ReachableSettings

/-!
# What a configuration leads to

Settings that configurations lead to are well shaped (`Settings.WellShaped`): texts, switches, lists
and objects where there were such in the shipped settings, a strategy that is one of the two words,
and a timeout that is a positive double. On well-shaped settings only one thing can stop a
configuration: a timeout that is a whole number beyond every double (`Members.TimeoutBeyond`).

Results:
* `Reachable.wellShaped`: settings that can be reached are well shaped.
* **`takeOver_of_not_beyond`**, **`takeOver_of_beyond`**: what a configuration leads to, setting by
  setting. It is taken over as a whole, or up to the timeout that is beyond every double.
* `merged_merged`: a configuration taken over twice is taken over once.
-/

namespace TabCompletion

/-! ## Timeouts -/

namespace Binary64

variable {x : Binary64} {num : Nat}

/-- A whole number is at least one unit of its exponent. -/
theorem den_le_num_scaled (hnum : num ≠ 0) :
    (scaled num 1 (exponentFor num 1)).2 ≤ (scaled num 1 (exponentFor num 1)).1 := by
  have hone : Nat.log2 1 = 0 := rfl
  have hexponent : exponentFor num 1 ≤ num.log2 := by
    unfold exponentFor minExponent
    dsimp only
    rw [hone]
    split <;> omega
  generalize exponentFor num 1 = e at hexponent
  unfold scaled
  dsimp only
  rw [Nat.one_mul]
  by_cases he : 0 ≤ e
  · have hsize : twoTo e.toNat ≤ num :=
      (Nat.pow_le_pow_right (by norm_num) (by omega)).trans (Nat.log2_self_le hnum)
    exact hsize.trans (Nat.le_mul_of_pos_right num (Nat.two_pow_pos _))
  · have hzero : e.toNat = 0 := by omega
    rw [hzero]
    exact Nat.mul_pos (Nat.pos_of_ne_zero hnum) (Nat.two_pow_pos _)

/-- The double of a positive whole number has that sign and is not zero. -/
theorem ofRatio_one_eq_finite {negative sign : Bool} {m : Nat} {e : Int} (hnum : num ≠ 0)
    (h : ofRatio negative num 1 = .finite sign m e) : sign = negative ∧ m ≠ 0 := by
  have hle := den_le_num_scaled hnum
  have hden : 0 < (scaled num 1 (exponentFor num 1)).2 :=
    Nat.mul_pos Nat.one_pos (Nat.two_pow_pos _)
  have hround : 1 ≤ roundHalfEven (scaled num 1 (exponentFor num 1)).1
      (scaled num 1 (exponentFor num 1)).2 := le_roundHalfEven hden (by rwa [Nat.one_mul])
  unfold ofRatio at h
  rw [if_neg hnum] at h
  dsimp only at h
  generalize roundHalfEven _ _ = rounded at h hround
  by_cases hfull : rounded = twoTo 53
  · rw [if_pos hfull] at h
    dsimp only at h
    split_ifs at h
    cases h
    exact ⟨rfl, (Nat.two_pow_pos 52).ne'⟩
  · rw [if_neg hfull] at h
    dsimp only at h
    split_ifs at h
    cases h
    exact ⟨rfl, Nat.one_le_iff_ne_zero.mp hround⟩

/-- A positive whole number is a positive double, if it is any. -/
theorem isPositive_of_ofInt? {n : Int} (hn : 0 < n) (h : ofInt? n = some x) :
    x.isPositive = true := by
  unfold ofInt? at h
  split at h
  · rename_i sign m e hratio
    cases h
    obtain ⟨hsign, hm⟩ := ofRatio_one_eq_finite (by omega) hratio
    have hpositive : sign = false := by
      rw [hsign]
      exact decide_eq_false (by omega)
    simp [isPositive, hpositive, hm]
  · cases h

end Binary64

/-- A timeout is given that is a whole number beyond every double. -/
def Members.TimeoutBeyond (m : Members) : Prop :=
  ∃ n : Int, Members.within? m "completion" "generator_timeout" = some (.int n) ∧ 0 < n ∧
    Binary64.ofInt? n = none

namespace Settings

theorem positiveTimeout_eq_none_iff {v : Json} :
    positiveTimeout v = none ↔ ∃ n : Int, v = .int n ∧ 0 < n ∧ Binary64.ofInt? n = none := by
  constructor
  · intro h
    unfold positiveTimeout at h
    split at h
    · cases h
    · rename_i n
      split_ifs at h with hn
      exact ⟨n, rfl, hn, Option.map_eq_none_iff.mp h⟩
    · cases h
    · cases h
  · rintro ⟨n, rfl, hn, hnone⟩
    simp [positiveTimeout, hn, hnone]

/-- A timeout that is taken over is a positive double. -/
theorem isPositive_of_positiveTimeout {v t : Json} (h : positiveTimeout v = some (some t)) :
    ∃ x, t = .real x ∧ x.isPositive = true := by
  unfold positiveTimeout at h
  split at h
  · cases h
    exact ⟨.one, rfl, rfl⟩
  · rename_i n
    split_ifs at h with hn
    · obtain ⟨x, hx, ht⟩ := Option.map_eq_some_iff.mp h
      cases ht
      exact ⟨x, rfl, Binary64.isPositive_of_ofInt? hn hx⟩
    · cases h
  · rename_i x
    split_ifs at h with hx
    · cases h
      exact ⟨x, rfl, hx⟩
    · cases h
  · cases h

/-! ## Each setting -/

/-- An object in which no name stands twice. -/
def IsObject (v : Json) : Prop := ∃ m : Members, v = .object m ∧ (Members.keys m).Nodup

/-- The strategy that is in force after one is given. -/
def strategyOr (current : Json) : Option Json → Json
  | some (.text "prefix") => .text "prefix"
  | some (.text "fuzzy") => .text "fuzzy"
  | _ => current

/-- The timeout that is in force after one is given. -/
def timeoutOr (current : Json) (given : Option Json) : Json :=
  ((positiveTimeout (given.getD current)).join).getD current

/-- The directories that are in force after some are given. -/
def dirsOr (current : Json) : Option Json → Json
  | some (.list dirs) => .list dirs
  | _ => current

/-- An object after the members of the one that is given were put into it. -/
def addedTo (current : Json) : Option Json → Json
  | some (.object new) =>
    match current with
    | .object m => .object (Members.putAll m new)
    | v => v
  | _ => current

/-- The styles of panels among some members: those that are objects. -/
def panelsOf (given : Members) : Members :=
  given.filter fun (_, style) =>
    match style with
    | .object _ => true
    | _ => false

/-- The styles of panels that are in force after some are given. -/
def panelsOr (current : Option Json) : Option Json → Option Json
  | some (.object given) =>
    if (panelsOf given).isEmpty then current
    else some (addedTo (current.getD (.object shippedPanels)) (some (.object (panelsOf given))))
  | _ => current

/-- The settings in force after a configuration. -/
def merged (c : Settings) (m : Members) : Settings where
  logLevel := textOr c.logLevel (m.within? "general" "log_level")
  logToFile := flagOr c.logToFile (m.within? "general" "log_to_file")
  defaultStrategy := strategyOr c.defaultStrategy (m.within? "completion" "default_filter_strategy")
  generatorTimeout := timeoutOr c.generatorTimeout (m.within? "completion" "generator_timeout")
  showHidden := flagOr c.showHidden (m.within? "completion" "show_hidden_files")
  extraSpecDirs := dirsOr c.extraSpecDirs (m.within? "completion" "extra_spec_dirs")
  icons := addedTo c.icons (m.within? "ui" "suggestion_icons")
  promptSymbol := (m.within? "ui" "prompt_symbol").getD c.promptSymbol
  promptPlaceholder := c.promptPlaceholder
  autoPopup := flagOr c.autoPopup (m.within? "ui" "completion_auto_popup")
  completionStyles := addedTo c.completionStyles (m.within? "ui" "completion_styles")
  panelStyles := panelsOr c.panelStyles (m.within? "ui" "panel_styles")

/-- The settings in force after what stands before the timeout in a configuration. -/
def upToTimeout (c : Settings) (m : Members) : Settings :=
  { c with
    logLevel := (c.merged m).logLevel
    logToFile := (c.merged m).logToFile
    defaultStrategy := (c.merged m).defaultStrategy }

/-- Settings of the shape of the shipped ones. -/
structure WellShaped (c : Settings) : Prop where
  logLevel : ∃ s, c.logLevel = .text s
  logToFile : ∃ b, c.logToFile = .bool b
  strategy : c.defaultStrategy = .text "prefix" ∨ c.defaultStrategy = .text "fuzzy"
  timeout : ∃ x, c.generatorTimeout = .real x ∧ x.isPositive = true
  showHidden : ∃ b, c.showHidden = .bool b
  specDirs : ∃ dirs, c.extraSpecDirs = .list dirs
  icons : IsObject c.icons
  completionStyles : IsObject c.completionStyles
  panels : IsObject c.panels
  autoPopup : ∃ b, c.autoPopup = .bool b

variable {c : Settings} {m : Members}

theorem IsObject.addedTo {v : Json} (hv : IsObject v) (given : Option Json) :
    IsObject (addedTo v given) := by
  obtain ⟨m, rfl, hm⟩ := hv
  unfold Settings.addedTo
  split
  · exact ⟨_, rfl, Members.nodup_putAll hm _⟩
  · exact ⟨m, rfl, hm⟩

/-- The styles of panels stay an object. -/
theorem isObject_panelsOr (h : IsObject c.panels) (given : Option Json) :
    IsObject ((panelsOr c.panelStyles given).getD (.object shippedPanels)) := by
  unfold panelsOr
  split
  · split
    · exact h
    · rw [Option.getD_some]
      exact h.addedTo _
  · exact h

/-! ## A configuration, step by step -/

/-- Members can be put into what is an object. -/
theorem extended_eq {v : Json} (hv : IsObject v) (new : Members) :
    v.extended new = .ok (addedTo v (some (.object new))) := by
  obtain ⟨m, rfl, -⟩ := hv
  rfl

/-- What is given is no object, so nothing is added. -/
theorem addedTo_of_not_object {v : Json} {given : Option Json}
    (h : ∀ new, given ≠ some (.object new)) : addedTo v given = v := by
  unfold addedTo
  split
  · rename_i new
    exact absurd rfl (h new)
  · rfl

theorem takeTimeout_of_not_beyond (hreal : ∃ x, c.generatorTimeout = .real x)
    (hm : ¬ m.TimeoutBeyond) :
    takeTimeout m c = .ok { c with
      generatorTimeout :=
        timeoutOr c.generatorTimeout (m.within? "completion" "generator_timeout") } := by
  unfold takeTimeout timeoutOr
  dsimp only
  split
  · rename_i hnone
    obtain ⟨n, hn, hpositive, hrange⟩ := positiveTimeout_eq_none_iff.mp hnone
    obtain ⟨x, hx⟩ := hreal
    cases hgiven : m.within? "completion" "generator_timeout" with
    | none =>
      rw [hgiven, hx] at hn
      cases hn
    | some v =>
      rw [hgiven] at hn
      cases hn
      exact absurd ⟨n, hgiven, hpositive, hrange⟩ hm
  · rename_i t ht
    rw [ht]
    rfl

theorem takeTimeout_of_beyond (hm : m.TimeoutBeyond) :
    takeTimeout m c = .error (.load .timeoutRange "") := by
  obtain ⟨n, hgiven, hpositive, hrange⟩ := hm
  have hnone := positiveTimeout_eq_none_iff.mpr ⟨n, rfl, hpositive, hrange⟩
  unfold takeTimeout
  dsimp only
  rw [hgiven, Option.getD_some, hnone]

theorem takeIcons_eq (h : IsObject c.icons) :
    takeIcons m c = .ok { c with icons := addedTo c.icons (m.within? "ui" "suggestion_icons") } := by
  unfold takeIcons
  split
  · rename_i new hnew
    rw [hnew, extended_eq h]
    rfl
  · rename_i hnot
    rw [addedTo_of_not_object hnot]

theorem takeCompletionStyles_eq (h : IsObject c.completionStyles) :
    takeCompletionStyles m c = .ok { c with
      completionStyles := addedTo c.completionStyles (m.within? "ui" "completion_styles") } := by
  unfold takeCompletionStyles
  split
  · rename_i new hnew
    rw [hnew, extended_eq h]
    rfl
  · rename_i hnot
    rw [addedTo_of_not_object hnot]

theorem putPanels_eq (h : IsObject c.panels) (given : Members) :
    c.putPanels given = .ok { c with
      panelStyles := panelsOr c.panelStyles (some (.object given)) } := by
  obtain ⟨styles, hstyles, -⟩ := h
  have hput : c.putPanels given = if (panelsOf given).isEmpty then .ok c
      else match c.panels with
        | .object m =>
          .ok { c with panelStyles := some (.object (Members.putAll m (panelsOf given))) }
        | v => .error (.naming v) := rfl
  rw [hput, panelsOr]
  split_ifs
  · rfl
  · rw [hstyles]
    unfold panels at hstyles
    rw [hstyles]
    rfl

theorem takePanels_eq (h : IsObject c.panels) :
    takePanels m c = .ok { c with
      panelStyles := panelsOr c.panelStyles (m.within? "ui" "panel_styles") } := by
  unfold takePanels
  split
  · rename_i given hgiven
    rw [hgiven, putPanels_eq h]
    rfl
  · rename_i hnot
    have hsame : panelsOr c.panelStyles (m.within? "ui" "panel_styles") = c.panelStyles := by
      unfold panelsOr
      split
      · rename_i given hgiven
        exact absurd hgiven (hnot given)
      · rfl
    rw [hsame]

/-- A step that does not fail is followed by the others. -/
theorem through_of_ok {step : Settings → Except Fault Settings} {d : Settings}
    {rest : List (Settings → Except Fault Settings)} (h : step c = .ok d) :
    c.through (step :: rest) = d.through rest := by
  rw [through, h]

/-- **A configuration is taken over as a whole**, unless it has a timeout beyond every double. -/
theorem takeOver_of_not_beyond (hc : c.WellShaped) (hm : ¬ m.TimeoutBeyond) :
    c.takeOver m = (c.merged m, none) := by
  obtain ⟨x, hx, -⟩ := hc.timeout
  -- The steps in order; none before it changes what a step asks of the settings.
  refine (through_of_ok rfl).trans ?_
  refine (through_of_ok rfl).trans ?_
  refine (through_of_ok (takeTimeout_of_not_beyond (by exact ⟨x, hx⟩) hm)).trans ?_
  refine (through_of_ok rfl).trans ?_
  refine (through_of_ok (takeIcons_eq (by exact hc.icons))).trans ?_
  refine (through_of_ok (takeCompletionStyles_eq (by exact hc.completionStyles))).trans ?_
  refine (through_of_ok (takePanels_eq (by exact hc.panels))).trans ?_
  refine (through_of_ok rfl).trans ?_
  rfl

/-- **A configuration with a timeout beyond every double** is taken over up to it. -/
theorem takeOver_of_beyond (hm : m.TimeoutBeyond) :
    c.takeOver m = (c.upToTimeout m, some (.load .timeoutRange "")) := by
  refine (through_of_ok rfl).trans ?_
  refine (through_of_ok rfl).trans ?_
  rw [through, takeTimeout_of_beyond hm]
  rfl

/-! ## Settings that can be reached -/

theorem textOr_text (s : String) (given : Option Json) : ∃ t, textOr (.text s) given = .text t := by
  unfold textOr
  split
  · exact ⟨_, rfl⟩
  · exact ⟨s, rfl⟩

theorem strategyOr_word {v : Json} (hv : v = .text "prefix" ∨ v = .text "fuzzy")
    (given : Option Json) :
    strategyOr v given = .text "prefix" ∨ strategyOr v given = .text "fuzzy" := by
  unfold strategyOr
  split
  · exact .inl rfl
  · exact .inr rfl
  · exact hv

theorem timeoutOr_positive {v : Json} (hv : ∃ x, v = .real x ∧ x.isPositive = true)
    (given : Option Json) : ∃ x, timeoutOr v given = .real x ∧ x.isPositive = true := by
  unfold timeoutOr
  cases hpositive : positiveTimeout (given.getD v) with
  | none => exact hv
  | some t =>
    cases t with
    | none => exact hv
    | some t => exact isPositive_of_positiveTimeout hpositive

theorem dirsOr_list {v : Json} (hv : ∃ dirs, v = .list dirs) (given : Option Json) :
    ∃ dirs, dirsOr v given = .list dirs := by
  unfold dirsOr
  split
  · exact ⟨_, rfl⟩
  · exact hv

/-- What stands before the timeout keeps the shape. -/
theorem WellShaped.upToTimeout (hc : c.WellShaped) (m : Members) : (c.upToTimeout m).WellShaped where
  logLevel := by
    obtain ⟨s, hs⟩ := hc.logLevel
    simpa [Settings.upToTimeout, merged, hs] using textOr_text s _
  logToFile := ⟨_, rfl⟩
  strategy := strategyOr_word hc.strategy _
  timeout := hc.timeout
  showHidden := hc.showHidden
  specDirs := hc.specDirs
  icons := hc.icons
  completionStyles := hc.completionStyles
  panels := hc.panels
  autoPopup := hc.autoPopup

/-- A configuration keeps the shape. -/
theorem WellShaped.merged (hc : c.WellShaped) (m : Members) : (c.merged m).WellShaped where
  logLevel := (hc.upToTimeout m).logLevel
  logToFile := ⟨_, rfl⟩
  strategy := strategyOr_word hc.strategy _
  timeout := timeoutOr_positive hc.timeout _
  showHidden := ⟨_, rfl⟩
  specDirs := dirsOr_list hc.specDirs _
  icons := hc.icons.addedTo _
  completionStyles := hc.completionStyles.addedTo _
  panels := isObject_panelsOr hc.panels _
  autoPopup := ⟨_, rfl⟩

theorem wellShaped_defaults : ({} : Settings).WellShaped where
  logLevel := ⟨_, rfl⟩
  logToFile := ⟨_, rfl⟩
  strategy := .inl rfl
  timeout := ⟨.one, rfl, rfl⟩
  showHidden := ⟨_, rfl⟩
  specDirs := ⟨_, rfl⟩
  icons := ⟨_, rfl, by decide⟩
  completionStyles := ⟨_, rfl, by decide⟩
  panels := ⟨_, rfl, by decide⟩
  autoPopup := ⟨_, rfl⟩

/-- **Settings that can be reached are well shaped.** -/
theorem Reachable.wellShaped (h : Reachable c) : c.WellShaped := by
  induction h with
  | defaults => exact wellShaped_defaults
  | takeOver _ m ih =>
    by_cases hm : m.TimeoutBeyond
    · rw [takeOver_of_beyond hm]
      exact ih.upToTimeout m
    · rw [takeOver_of_not_beyond ih hm]
      exact ih.merged m

/-! ## A configuration twice -/

theorem textOr_textOr (v : Json) (given : Option Json) :
    textOr (textOr v given) given = textOr v given := by
  cases given with
  | none => rfl
  | some g => cases g <;> rfl

theorem flagOr_flagOr (v : Json) (given : Option Json) :
    flagOr (flagOr v given) given = flagOr v given := by
  cases given <;> rfl

theorem strategyOr_strategyOr (v : Json) (given : Option Json) :
    strategyOr (strategyOr v given) given = strategyOr v given := by
  unfold strategyOr
  split
  · rfl
  · rfl
  · split <;> trivial

theorem dirsOr_dirsOr (v : Json) (given : Option Json) :
    dirsOr (dirsOr v given) given = dirsOr v given := by
  cases given with
  | none => rfl
  | some g => cases g <;> rfl

theorem timeoutOr_none {v : Json} (hv : ∃ x, v = .real x ∧ x.isPositive = true) :
    timeoutOr v none = v := by
  obtain ⟨x, rfl, hx⟩ := hv
  simp [timeoutOr, positiveTimeout, hx]

theorem timeoutOr_timeoutOr {v : Json} (hv : ∃ x, v = .real x ∧ x.isPositive = true)
    (given : Option Json) : timeoutOr (timeoutOr v given) given = timeoutOr v given := by
  cases given with
  | none => rw [timeoutOr_none hv, timeoutOr_none hv]
  | some g =>
    unfold timeoutOr
    rw [Option.getD_some, Option.getD_some]
    cases (positiveTimeout g).join <;> rfl

theorem addedTo_addedTo {v : Json} (hv : IsObject v) (given : Option Json) :
    addedTo (addedTo v given) given = addedTo v given := by
  obtain ⟨m, rfl, hm⟩ := hv
  cases given with
  | none => rfl
  | some g =>
    cases g with
    | object new => exact congrArg Json.object (Members.putAll_putAll hm new)
    | _ => rfl

theorem panelsOr_panelsOr {current : Option Json}
    (h : IsObject (current.getD (.object shippedPanels))) (given : Option Json) :
    panelsOr (panelsOr current given) given = panelsOr current given := by
  cases given with
  | none => rfl
  | some g =>
    cases g with
    | object styles =>
      by_cases hempty : (panelsOf styles).isEmpty
      · simp only [panelsOr, hempty, if_true]
      · simp only [panelsOr, hempty, Bool.false_eq_true, if_false, Option.getD_some,
          addedTo_addedTo h]
    | _ => rfl

/-- **A configuration taken over twice is taken over once.** -/
theorem merged_merged (hc : c.WellShaped) (m : Members) : (c.merged m).merged m = c.merged m := by
  have hprompt : (m.within? "ui" "prompt_symbol").getD
      ((m.within? "ui" "prompt_symbol").getD c.promptSymbol) =
      (m.within? "ui" "prompt_symbol").getD c.promptSymbol := by
    cases m.within? "ui" "prompt_symbol" <;> rfl
  simp only [merged, textOr_textOr, flagOr_flagOr, strategyOr_strategyOr, dirsOr_dirsOr,
    timeoutOr_timeoutOr hc.timeout, addedTo_addedTo hc.icons, addedTo_addedTo hc.completionStyles,
    panelsOr_panelsOr hc.panels, hprompt]

end Settings

end TabCompletion
