import TabCompletion.Listing
import TabCompletion.Proofs.Disk.Way

/-!
# Listings that fail, and what is seen of a directory

A directory that is missing or may not be read counts as empty, so that most faults of the disk do
not show. What is left is a path that no directory can have, and a fault of opening it that is none
of the expected ones, such as a name that is too long or a loop of links.

What is seen of a directory may be older than the directory: it is what was remembered last, as long
as the time stays. As long as the disk stays, it does not matter which directories are read when.

* `listingTime_error_iff`: the time of a listing fails only for a path with a null character.
* **`scan_error_iff`**: when the listing of a directory fails.
* **`seen_of_scan`**: reading a directory changes nothing that is seen.
-/

namespace TabCompletion

namespace Disk

/-- **The time of a listing fails only for a path with a null character.** -/
theorem listingTime_error_iff {d : Disk} {base : WorkingDir} {path : String} :
    (∃ f, d.listingTime base path = .error f) ↔ HasNull path := by
  rw [← modified_eq_nullInPath_iff]
  unfold listingTime
  cases d.modified base path with
  | ok time => simp
  | error f => cases f <;> simp

/-- A directory cannot be listed if opening it meets a fault that does not count as empty. -/
theorem listing_error_iff {d : Disk} {base : WorkingDir} {path : String} :
    (∃ f, d.listing base path = .error f) ↔
      ∃ f, d.entries base path = .error f ∧ f.meansEmpty = false := by
  unfold listing
  cases d.entries base path with
  | ok entries => simp
  | error f => cases hf : f.meansEmpty <;> simp [hf]

end Disk

namespace Listings

/-- A listing of the path is remembered with the time that the directory has. -/
def Holds (known : Listings) (d : Disk) (base : WorkingDir) (path : String) : Prop :=
  ∃ time l, d.listingTime base path = .ok time ∧ known.lookup path = some (time, l)

theorem fresh_error_iff {known : Listings} {d : Disk} {base : WorkingDir} {path : String}
    {time : Int} :
    (∃ f, scan.fresh known d base path time = .error f) ↔
      ∃ f, d.entries base path = .error f ∧ f.meansEmpty = false := by
  rw [← Disk.listing_error_iff]
  unfold scan.fresh
  cases d.listing base path with
  | ok l => exact ⟨nofun, nofun⟩
  | error f => exact ⟨fun _ => ⟨f, rfl⟩, fun _ => ⟨f, rfl⟩⟩

/-- **When the listing of a directory fails**: no directory can have the path, or it is not known
from before and opening it meets a fault that does not count as empty. -/
theorem scan_error_iff {known : Listings} {d : Disk} {base : WorkingDir} {path : String} :
    (∃ f, known.scan d base path = .error f) ↔
      HasNull path ∨ ¬ known.Holds d base path ∧
        ∃ f, d.entries base path = .error f ∧ f.meansEmpty = false := by
  rw [← Disk.listingTime_error_iff]
  unfold scan Holds
  cases d.listingTime base path with
  | error f => exact ⟨fun _ => .inl ⟨f, rfl⟩, fun _ => ⟨f, rfl⟩⟩
  | ok time =>
    have hno : ¬ ∃ f : FileFault, (Except.ok time : Except FileFault Int) = .error f := nofun
    rw [← @fresh_error_iff known d base path time, or_iff_right hno]
    simp only [bind, Except.bind, Except.ok.injEq]
    cases known.lookup path with
    | none => simp
    | some entry =>
      obtain ⟨t, l⟩ := entry
      by_cases ht : t = time
      · subst ht
        simp [pure, Except.pure]
      · simp [ht]

/-! ## What is remembered -/

theorem lookup_filter_ne {known : Listings} {path other : String} (h : other ≠ path) :
    (known.filter (·.1 ≠ path)).lookup other = known.lookup other := by
  induction known with
  | nil => rfl
  | cons e rest ih =>
    obtain ⟨p, entry⟩ := e
    by_cases hp : p = path
    · have hne : (other == p) = false := by simp [hp, h]
      rw [List.filter_cons_of_neg (by simp [hp]), ih, List.lookup_cons, hne]
    · rw [List.filter_cons_of_pos (by simp [hp]), List.lookup_cons, List.lookup_cons, ih]

/-- A listing that is remembered is found under its path, and nothing else changes. -/
theorem lookup_remember (known : Listings) (path other : String) (time : Int) (l : Listing) :
    (known.remember path time l).lookup other =
      if other = path then some (time, l) else known.lookup other := by
  unfold remember
  by_cases h : other = path
  · simp [h]
  · rw [if_neg h, List.lookup_cons, beq_eq_false_iff_ne.mpr h]
    exact lookup_filter_ne h

/-- The listing of the directory at a path, from memory where it can be. -/
def seen (known : Listings) (d : Disk) (base : WorkingDir) (path : String) :
    Except FileFault Listing :=
  (known.scan d base path).map Prod.fst

theorem seen_eq (known : Listings) (d : Disk) (base : WorkingDir) (path : String) :
    known.seen d base path = (do
      let time ← d.listingTime base path
      match known.lookup path with
      | some (t, l) => if t = time then pure l else d.listing base path
      | none => d.listing base path) := by
  have hfresh : ∀ time, (scan.fresh known d base path time).map Prod.fst = d.listing base path := by
    intro time
    unfold scan.fresh
    cases d.listing base path <;> rfl
  unfold seen scan
  cases d.listingTime base path with
  | error f => rfl
  | ok time =>
    simp only [bind, Except.bind]
    cases known.lookup path with
    | none => exact hfresh time
    | some entry =>
      obtain ⟨t, l⟩ := entry
      by_cases ht : t = time
      · simp only [ht, if_true]
        rfl
      · simp only [ht, if_false]
        exact hfresh time

/-- Without anything to remember, a directory is read. -/
theorem seen_nil (d : Disk) (base : WorkingDir) (path : String) :
    seen [] d base path = d.listing base path := by
  rw [seen_eq]
  cases htime : d.listingTime base path with
  | ok time => rfl
  | error f =>
    -- a path without a time cannot be opened either, for the same reason
    have hnull : HasNull path := Disk.listingTime_error_iff.mp ⟨f, htime⟩
    obtain rfl : FileFault.nullInPath = f := by
      unfold Disk.listingTime at htime
      rw [Disk.modified_eq_nullInPath_iff.mpr hnull] at htime
      exact Except.error.inj htime
    have hentries : d.entries base path = .error .nullInPath := by
      unfold Disk.entries
      rw [Disk.locate_eq_nullInPath_iff.mpr hnull]
      rfl
    unfold Disk.listing
    rw [hentries]
    rfl

/-- A listing is made from memory, or read and remembered. -/
theorem scan_cases {known after : Listings} {d : Disk} {base : WorkingDir} {path : String}
    {l : Listing} (h : known.scan d base path = .ok (l, after)) :
    after = known ∨
      ∃ time, d.listingTime base path = .ok time ∧ d.listing base path = .ok l ∧
        after = known.remember path time l := by
  unfold scan at h
  cases htime : d.listingTime base path with
  | error f =>
    rw [htime] at h
    cases h
  | ok time =>
    rw [htime] at h
    have hfresh : scan.fresh known d base path time = .ok (l, after) →
        d.listing base path = .ok l ∧ after = known.remember path time l := by
      unfold scan.fresh
      intro hread
      cases hlisting : d.listing base path with
      | error f =>
        rw [hlisting] at hread
        cases hread
      | ok read =>
        rw [hlisting] at hread
        cases hread
        exact ⟨rfl, rfl⟩
    simp only [bind, Except.bind] at h
    split at h
    · split at h
      · cases h
        exact .inl rfl
      · exact .inr ⟨time, rfl, hfresh h⟩
    · exact .inr ⟨time, rfl, hfresh h⟩

/-- **Reading a directory changes nothing that is seen**, at its path or at another. -/
theorem seen_of_scan {known after : Listings} {d : Disk} {base : WorkingDir} {path : String}
    {l : Listing} (h : known.scan d base path = .ok (l, after)) (other : String) :
    after.seen d base other = known.seen d base other := by
  rcases scan_cases h with rfl | ⟨time, htime, -, rfl⟩
  · rfl
  · by_cases hpath : other = path
    · subst hpath
      have hseen : known.seen d base other = .ok l := by
        rw [seen, h]
        rfl
      rw [seen_eq, lookup_remember, hseen, htime]
      simp [bind, Except.bind, pure, Except.pure]
    · rw [seen_eq, seen_eq, lookup_remember, if_neg hpath]

end Listings

end TabCompletion
