import TabCompletion.Settings.Data

/-!
# The settings that configurations lead to

From the shipped settings on, configurations are taken over one after the other, each up to a fault
if it has one. Whatever they hold, the icons stay an object.

* `through_preserves`: what every step of a configuration preserves, the configuration does.
* **`Reachable.icons`**: the icons of settings that can be reached are an object.
* `Reachable.icon`: so a candidate of any kind has an icon.
-/

namespace TabCompletion.Settings

/-- The settings that configurations lead to. -/
inductive Reachable : Settings → Prop
  | defaults : Reachable {}
  | takeOver {c : Settings} (h : Reachable c) (m : Members) : Reachable (c.takeOver m).1

/-- The icons are an object. -/
def IconsObject (c : Settings) : Prop := ∃ icons, c.icons = .object icons

/-- What every step preserves holds after the steps, also where one of them fails. -/
theorem through_preserves {P : Settings → Prop} {steps : List (Settings → Except Fault Settings)}
    (h : ∀ step ∈ steps, ∀ c d, step c = .ok d → P c → P d) {c : Settings} (hc : P c) :
    P (c.through steps).1 := by
  induction steps generalizing c with
  | nil => exact hc
  | cons step rest ih =>
    unfold through
    split
    · rename_i d hd
      exact ih (fun s hs => h s (List.mem_cons_of_mem _ hs)) (h step List.mem_cons_self c d hd hc)
    · exact hc

/-- Icons are added to an object. -/
theorem takeIcons_preserves {m : Members} {c d : Settings} (h : takeIcons m c = .ok d)
    (hc : c.IconsObject) : d.IconsObject := by
  obtain ⟨icons, hicons⟩ := hc
  unfold takeIcons at h
  split at h
  · rw [hicons] at h
    cases h
    exact ⟨_, rfl⟩
  · cases h
    exact ⟨icons, hicons⟩

theorem takePanels_icons {m : Members} {c d : Settings} (h : takePanels m c = .ok d) :
    d.icons = c.icons := by
  unfold takePanels at h
  split at h
  · unfold putPanels at h
    dsimp only at h
    split at h
    · cases h
      rfl
    · split at h
      · cases h
        rfl
      · cases h
  · cases h
    rfl

theorem takeTimeout_icons {m : Members} {c d : Settings} (h : takeTimeout m c = .ok d) :
    d.icons = c.icons := by
  unfold takeTimeout at h
  dsimp only at h
  split at h
  · cases h
  · cases h
    rfl

theorem takeCompletionStyles_icons {m : Members} {c d : Settings}
    (h : takeCompletionStyles m c = .ok d) : d.icons = c.icons := by
  unfold takeCompletionStyles at h
  split at h
  · cases hstyles : c.completionStyles.extended _ with
    | error f =>
      rw [hstyles] at h
      cases h
    | ok styles =>
      rw [hstyles] at h
      cases h
      rfl
  · cases h
    rfl

theorem IconsObject.of_eq {c d : Settings} (h : d.icons = c.icons) (hc : c.IconsObject) :
    d.IconsObject := by
  obtain ⟨icons, hicons⟩ := hc
  exact ⟨icons, h.trans hicons⟩

/-- A configuration leaves the icons an object. -/
theorem takeOver_icons (m : Members) {c : Settings} (hc : c.IconsObject) :
    (c.takeOver m).1.IconsObject := by
  refine through_preserves (fun step hstep c d hd hc => ?_) hc
  simp only [List.mem_cons, List.not_mem_nil, or_false] at hstep
  rcases hstep with rfl | rfl | rfl | rfl | rfl | rfl | rfl | rfl
  · cases hd
    exact hc
  · cases hd
    exact hc
  · exact hc.of_eq (takeTimeout_icons hd)
  · cases hd
    exact hc
  · exact takeIcons_preserves hd hc
  · exact hc.of_eq (takeCompletionStyles_icons hd)
  · exact hc.of_eq (takePanels_icons hd)
  · cases hd
    exact hc

/-- **The icons of settings that can be reached are an object.** -/
theorem Reachable.icons {c : Settings} (h : Reachable c) : c.IconsObject := by
  induction h with
  | defaults => exact ⟨_, rfl⟩
  | takeOver _ m ih => exact takeOver_icons m ih

/-- So a candidate of any kind has an icon. -/
theorem Reachable.icon {c : Settings} (h : Reachable c) (kind : String) :
    ∃ icon, c.icon kind = .ok icon := by
  obtain ⟨icons, hicons⟩ := h.icons
  unfold Settings.icon
  rw [hicons]
  exact ⟨_, rfl⟩

end TabCompletion.Settings
