import Mathlib
import TabCompletion.Proofs.Disk.Way

/-!
# Files that are written and read again

A file is written at the place that is left when all links at the end of its path are followed. Only
that place and the time of its directory change, so the directories and links on the way lead on as
they did (`Leads.putAt`), and the path leads to the new file.

Results:
* `entryAt?_putAt`: what is put at a place is there, and all else is as it was.
* `leads_writePlace`: a path that leads anywhere after a file was written at its end leads to it.
* **`read_of_write`**: a file that was written and is there has the content that was written.
-/

namespace TabCompletion.Disk

variable {d d' : Disk} {p q here : Place} {parts : List String}

/-! ## What is at a place -/

/-- The nodes of a disk, changed one by one. -/
theorem lookup_map (f : Place → Node → Node) (nodes : List (Place × Node)) (p : Place) :
    (nodes.map fun qn => (qn.1, f qn.1 qn.2)).lookup p = (nodes.lookup p).map (f p) := by
  induction nodes with
  | nil => rfl
  | cons qn rest ih =>
    obtain ⟨q, n⟩ := qn
    by_cases h : p = q
    · simp [h]
    · simp [List.lookup_cons, beq_eq_false_iff_ne.mpr h, ih]

/-- A change of a directory leaves what is there and how it opens. -/
theorem node?_touchParent (d : Disk) (p q : Place) :
    ((d.touchParent p).node? q).map (fun n => (n.entry, n.fault)) =
      (d.node? q).map fun n => (n.entry, n.fault) := by
  have hnodes : (d.touchParent p).nodes = d.nodes.map fun qn =>
      (qn.1, if qn.1 = p.dropLast then { qn.2 with modified := d.clock } else qn.2) := by
    unfold touchParent
    dsimp only
    congr 1
    funext qn
    split <;> rfl
  unfold node?
  split
  · rfl
  · rw [hnodes, lookup_map (fun q n => if q = p.dropLast then { n with modified := d.clock } else n),
      Option.map_map]
    congr 1
    funext n
    simp only [Function.comp]
    split <;> rfl

/-- What is put at a place is there, and opens as what was there before; all else is as it was. -/
theorem node?_putAt (hp : p ≠ []) (d : Disk) (e : Entry) (q : Place) :
    ((d.putAt p e).node? q).map (fun n => (n.entry, n.fault)) =
      if q = p then some (e, (d.node? p).bind (·.fault))
      else (d.node? q).map fun n => (n.entry, n.fault) := by
  cases hnode : d.node? p with
  | some n =>
    have hnodes : (d.putAt p e).nodes = d.nodes.map fun qn =>
        (qn.1, if qn.1 = p then { qn.2 with entry := e, modified := d.clock } else qn.2) := by
      unfold putAt
      rw [hnode]
      dsimp only
      congr 1
      funext qn
      split <;> rfl
    unfold node? at hnode ⊢
    rw [if_neg hp] at hnode
    rw [hnodes, lookup_map fun q n => if q = p then { n with entry := e, modified := d.clock } else n]
    by_cases hq : q = p
    · simp [hq, hp, hnode]
    · simp [hq]
  | none =>
    have hput : d.putAt p e = Disk.touchParent
        { d with nodes := d.nodes ++ [(p, { entry := e, modified := d.clock })]
                 clock := d.clock + 1 } p := by
      unfold putAt
      rw [hnode]
    rw [hput, node?_touchParent]
    unfold node? at hnode ⊢
    rw [if_neg hp] at hnode
    by_cases hq : q = p
    · simp [hq, hp, List.lookup_append, hnode]
    · simp [hq, List.lookup_append, List.lookup_cons, beq_eq_false_iff_ne.mpr hq]

theorem entryAt?_putAt (hp : p ≠ []) (d : Disk) (e : Entry) (q : Place) :
    (d.putAt p e).entryAt? q = if q = p then some e else d.entryAt? q := by
  have hnode := congrArg (Option.map Prod.fst) (node?_putAt hp d e q)
  rw [Option.map_map] at hnode
  unfold entryAt?
  refine hnode.trans ?_
  split
  · rfl
  · rw [Option.map_map]
    rfl

/-! ## Writing -/

/-- A place at which a file may be written: there is nothing, or a file that opens. -/
def Writable (d : Disk) (p : Place) : Prop :=
  p ≠ [] ∧ (d.node? p).bind (·.fault) = none ∧
    ∀ e, d.entryAt? p = some e → ∃ content, e = .file content

/-- A path leads on as it did after a file was written. -/
theorem Leads.putAt {content : Content} (hp : d.Writable p) (h : d.Leads here parts q) :
    (d.putAt p (.file content)).Leads here parts q := by
  induction h with
  | here here => exact .here here
  | @step here there q part more rest hdir hmove h ih =>
    have hkept {r : Place} {e : Entry} (he : d.entryAt? r = some e) (hfile : ∀ c, e ≠ .file c) :
        (d.putAt p (.file content)).entryAt? r = some e := by
      rw [entryAt?_putAt hp.1, if_neg, he]
      rintro rfl
      obtain ⟨c, hc⟩ := hp.2.2 e he
      exact hfile c hc
    refine .step (hkept hdir nofun) ?_ ih
    cases hmove with
    | stay hpart => exact .stay hpart
    | up hpart => exact .up hpart
    | @enter e hname hentry hlink =>
      by_cases hthere : here ++ [part] = p
      · refine .enter hname ?_ (e := .file content) nofun
        rw [entryAt?_putAt hp.1, if_pos hthere]
      · refine .enter hname ?_ hlink
        rw [entryAt?_putAt hp.1, if_neg hthere, hentry]
    | follow hname hentry => exact .follow hname (hkept hentry nofun)

/-- The directory and the name that the parts of a path end in. -/
theorem placeOf_eq_ok {links : Nat} (h : d.placeOf links here parts = .ok p) :
    ∃ above directory name, parts.filter (· ≠ "") = above ++ [name] ∧
      d.Leads here above directory ∧ d.entryAt? directory = some .directory ∧ IsName name ∧
      p = directory ++ [name] := by
  unfold placeOf at h
  split at h
  · cases h
  · rename_i name above hparts
    have hfilter : parts.filter (· ≠ "") = above.reverse ++ [name] := by
      rw [← List.reverse_reverse (parts.filter _), hparts, List.reverse_cons]
    have hempty : name ≠ "" := by
      have hmem : name ∈ parts.filter (· ≠ "") := by
        rw [hfilter]
        exact List.mem_append_right _ (List.mem_singleton_self _)
      simpa using (List.mem_filter.mp hmem).2
    cases hwalk : d.walk true links here above.reverse with
    | error f =>
      rw [hwalk] at h
      cases h
    | ok directory =>
      rw [hwalk] at h
      simp only [bind, Except.bind] at h
      split at h
      · rename_i n hnode
        split_ifs at h with hdir hdots hlong
        cases h
        have hname : IsName name := ⟨hempty, (not_or.mp hdots).1, (not_or.mp hdots).2⟩
        exact ⟨above.reverse, directory, name, hfilter, .of_walk hwalk,
          by rw [entryAt?_of_node? hnode, not_ne_iff.mp hdir], hname, rfl⟩
      · cases h

/-- A file is written where one may be. -/
theorem writable_writePlace {links : Nat} {there : Place} (hthere : there ≠ [])
    (h : d.writePlace links there = .ok p) : d.Writable p := by
  fun_induction Disk.writePlace d links there with
  | case1 links there hnode =>
    cases h
    exact ⟨hthere, by rw [hnode]; rfl, fun e he => by rw [entryAt?, hnode] at he; cases he⟩
  | case4 links there n hnode content hentry hfault =>
    cases h
    refine ⟨hthere, by rw [hnode]; exact hfault, fun e he => ⟨content, ?_⟩⟩
    rw [entryAt?_of_node? hnode, hentry] at he
    exact (Option.some.inj he).symm
  | case6 there n hnode target links hentry hfault start ih =>
    cases hplace : d.placeOf links start (Path.parts target) with
    | error f =>
      rw [hplace] at h
      cases h
    | ok next =>
      rw [hplace] at h
      obtain ⟨above, directory, name, -, -, -, -, rfl⟩ := placeOf_eq_ok hplace
      exact ih _ (by simp) h
  | _ => cases h

/-- **A name leads to the file that was written at it**, by induction on the links that are followed
from it. -/
theorem leads_writePlace {links : Nat} {directory : Place} {name : String} {content : Content}
    (hname : IsName name) (h : d.writePlace links (directory ++ [name]) = .ok p)
    (hq : (d.putAt p (.file content)).Leads directory [name] q) : q = p := by
  have hp : d.Writable p := writable_writePlace (by simp) h
  have hfile {there : Place} (hthere : there = p) :
      (d.putAt p (.file content)).entryAt? there = some (.file content) := by
    rw [entryAt?_putAt hp.1, if_pos hthere]
  generalize hthere : directory ++ [name] = there at h
  fun_induction Disk.writePlace d links there generalizing directory name with
  | case1 links there hnode =>
    cases h
    exact (hq.eq_of_file hname (hfile hthere)).trans hthere
  | case4 links there n hnode file hentry' hfault =>
    cases h
    exact (hq.eq_of_file hname (hfile hthere)).trans hthere
  | case6 there n hnode target links hlink hfault start =>
    rename_i ih
    cases hplace : d.placeOf links start (Path.parts target) with
    | error f =>
      rw [hplace] at h
      cases h
    | ok next =>
      rw [hplace] at h
      obtain ⟨above, directory', name', hparts, habove, hdir', hname', rfl⟩ := placeOf_eq_ok hplace
      -- The link is none of the places that are written, so it is still there.
      have hentry : d.entryAt? there = some (.link target) := by
        rw [entryAt?_of_node? hnode, hlink]
      have hne : there ≠ p := by
        rintro rfl
        obtain ⟨c, hc⟩ := hp.2.2 _ hentry
        cases hc
      have hstart : start = if Path.isAbsolute target then [] else directory := by
        change (if Path.isAbsolute target then [] else there.dropLast) = _
        rw [← hthere, List.dropLast_concat]
      rcases hq.of_name hname with ⟨e, hentry', hlink', -⟩ | ⟨target', hentry', hrest⟩
      · rw [hthere, entryAt?_putAt hp.1, if_neg hne, hentry] at hentry'
        exact absurd (Option.some.inj hentry').symm (hlink' target)
      · rw [hthere, entryAt?_putAt hp.1, if_neg hne, hentry] at hentry'
        cases hentry'
        rw [← hstart] at hrest
        have hfilter := @Leads.filter _ q start [] (Path.parts target) hrest
        rw [List.nil_append, hparts] at hfilter
        obtain ⟨m, hm, hlast⟩ := hfilter.split
        have hsame : m = directory' := hm.unique (habove.putAt hp)
        rw [hsame] at hlast
        exact ih _ hname' hlast rfl h
  | _ => cases h

/-- **A file that was written and is there has the content that was written.** -/
theorem read_of_write {base : WorkingDir} {path : String} {bytes : ByteArray}
    (hwrite : d.write base path bytes = .ok d') (hexists : d'.pathExists base path = .ok true) :
    d'.read base path = .ok bytes := by
  obtain ⟨start, parts, q, n, hway, hleads, hnode, hstat⟩ := stat_of_pathExists hexists
  unfold write at hwrite
  rw [hway] at hwrite
  simp only [bind, Except.bind] at hwrite
  split at hwrite
  · cases hwrite
  · rename_i there hthere
    split at hwrite
    · cases hwrite
    · rename_i p hp
      cases hwrite
      obtain ⟨above, directory, name, hparts, habove, -, hname, rfl⟩ := placeOf_eq_ok hthere
      have hwritable : d.Writable p := writable_writePlace (by simp) hp
      -- The path leads to the directory as before, and from there to the file.
      have hfilter := @Leads.filter _ q start [] parts hleads
      rw [List.nil_append, hparts] at hfilter
      obtain ⟨m, hm, hlast⟩ := hfilter.split
      obtain rfl : m = directory := hm.unique (habove.putAt hwritable)
      obtain rfl : q = p := leads_writePlace hname hp hlast
      have hput := node?_putAt hwritable.1 d (.file (.bytes bytes)) q
      rw [hnode, if_pos rfl, hwritable.2.1] at hput
      obtain ⟨entry, time, fault⟩ := n
      cases hput
      unfold read
      rw [hstat]
      rfl

end TabCompletion.Disk
