import Mathlib.Data.List.Induction
import Mathlib.Data.List.Sort
import MatView.Catalog.Load
import MatView.Proofs.Text.Folding
import MatView.Proofs.Unicode.ByteOrder
import MatView.Service.Session

/-!
# What a history of registrations leaves in a catalog

A registration survives as long as no later step registers or removes a source under its name, in
any spelling. Behind every run of steps, a catalog holds the sources whose registrations have
survived, at most one for each name. Its answers and its listings show nothing else of the history.

## Main definitions

* `Step.Renews`: the steps that change what is registered under a name.
* `Survives`: a registration that no later step has undone.
* `Catalog.WellKept`: every source is kept under its folded name, and no name twice.
* `Catalog.Reflects`: what a catalog shows of a history.

## Main statements

* `Session.wellKept_step`, `Session.mem_held_step`: what one step keeps and changes.
* `Session.wellKept_run`: what a run leaves.
* `Session.last_registration_wins`: what a catalog answers and lists behind a run.
-/

namespace MatView

open Text (sameName)

/-! ## Histories -/

/-- The step registers or removes a source under a name. -/
def Step.Renews (name : String) : Step → Prop
  | .register source => sameName source.name name = true
  | .deregister gone => sameName gone name = true
  | _ => False

/-- A source was registered, and nothing was registered or removed under its name since. -/
def Survives (history : List Step) (s : Source) : Prop :=
  ∃ before behind, history = before ++ .register s :: behind ∧
    ∀ step ∈ behind, ¬ step.Renews s.name

/-- A registration survives one more step if the step is this registration or leaves its name alone.
-/
theorem survives_concat {history : List Step} {step : Step} {s : Source} :
    Survives (history ++ [step]) s ↔
      step = .register s ∨ Survives history s ∧ ¬ step.Renews s.name := by
  constructor
  · rintro ⟨before, behind, hhistory, hbehind⟩
    rcases List.eq_nil_or_concat' behind with rfl | ⟨behind, last, rfl⟩
    · obtain ⟨-, hstep⟩ := List.append_inj' hhistory rfl
      exact .inl (List.singleton_inj.1 hstep)
    · have hsplit : history ++ [step] = (before ++ .register s :: behind) ++ [last] := by
        simpa using hhistory
      obtain ⟨rfl, hlast⟩ := List.append_inj' hsplit rfl
      rw [List.singleton_inj.1 hlast]
      refine .inr ⟨⟨before, behind, rfl, fun step hstep => hbehind step ?_⟩, hbehind last ?_⟩
      · exact List.mem_append_left _ hstep
      · exact List.mem_append_right _ (List.mem_singleton_self last)
  · rintro (rfl | ⟨⟨before, behind, rfl, hbehind⟩, hstep⟩)
    · exact ⟨history, [], rfl, by simp⟩
    · refine ⟨before, behind ++ [step], by simp, ?_⟩
      grind

namespace Catalog

/-- The sources that a catalog holds, in no particular order. -/
def held (c : Catalog) : List Source :=
  c.entries.map Prod.snd

/-- Every source is kept under its folded name, and no name twice. -/
structure WellKept (c : Catalog) : Prop where
  key_eq : ∀ e ∈ c.entries, e.1 = keyOf e.2.name
  nodup : (c.entries.map Prod.fst).Nodup

theorem keyOf_eq_iff {a b : String} : keyOf a = keyOf b ↔ sameName a b = true :=
  Text.sameName_iff_upperAscii.symm

theorem wellKept_empty : empty.WellKept :=
  ⟨by simp [empty], by simp [empty]⟩

theorem lookup_eq_some_iff {entries : List (String × Source)} (h : (entries.map Prod.fst).Nodup)
    {key : String} {s : Source} : entries.lookup key = some s ↔ (key, s) ∈ entries := by
  induction entries with
  | nil => simp
  | cons e entries ih =>
    obtain ⟨k, t⟩ := e
    obtain ⟨hk, hnodup⟩ := List.nodup_cons.1 h
    by_cases heq : key = k
    · have hs : (key, s) ∉ entries := by
        intro hs
        exact hk (List.mem_map.2 ⟨(key, s), hs, heq⟩)
      simp [heq] at hs ⊢
      grind
    · have hbeq : (key == k) = false := by simpa using heq
      simp [List.lookup_cons, hbeq, heq, ih hnodup]

namespace WellKept

variable {c : Catalog}

theorem without (h : c.WellKept) (key : String) : (Catalog.mk (c.without key)).WellKept where
  key_eq := fun e he => h.key_eq e (List.mem_of_mem_filter he)
  nodup := h.nodup.sublist (List.filter_sublist.map _)

theorem register (h : c.WellKept) (s : Source) : (c.register s).WellKept where
  key_eq := by
    intro e he
    rcases List.mem_cons.1 he with rfl | he
    · rfl
    · exact (h.without _).key_eq e he
  nodup := by
    refine List.nodup_cons.2 ⟨?_, (h.without _).nodup⟩
    simp [Catalog.without]

theorem deregister (h : c.WellKept) (name : String) : (c.deregister name).WellKept :=
  h.without _

/-- What is left without a name are the sources of all other names. -/
theorem mem_held_without (h : c.WellKept) {name : String} {s : Source} :
    s ∈ (Catalog.mk (c.without (keyOf name))).held ↔ s ∈ c.held ∧ sameName name s.name = false := by
  have hkey : ∀ e ∈ c.entries, (e.1 != keyOf name) = true ↔ sameName name e.2.name = false := by
    intro e he
    rw [h.key_eq e he, bne_iff_ne, ne_comm, ne_eq, keyOf_eq_iff, Bool.not_eq_true]
  simp only [held, Catalog.without, List.mem_map, List.mem_filter]
  grind

theorem mem_held_register (h : c.WellKept) {s t : Source} :
    s ∈ (c.register t).held ↔ s = t ∨ s ∈ c.held ∧ sameName t.name s.name = false := by
  rw [← h.mem_held_without]
  simp [held, Catalog.register]

theorem mem_held_deregister (h : c.WellKept) (name : String) {s : Source} :
    s ∈ (c.deregister name).held ↔ s ∈ c.held ∧ sameName name s.name = false :=
  h.mem_held_without

/-- What is found under a name is the one source whose name is equal to it up to case. -/
theorem find?_eq_some_iff (h : c.WellKept) {name : String} {s : Source} :
    c.find? name = some s ↔ s ∈ c.held ∧ sameName s.name name = true := by
  rw [find?, lookup_eq_some_iff h.nodup, held, List.mem_map]
  constructor
  · intro hs
    exact ⟨⟨_, hs, rfl⟩, keyOf_eq_iff.1 (h.key_eq _ hs).symm⟩
  · rintro ⟨⟨e, he, rfl⟩, hname⟩
    rwa [← keyOf_eq_iff.2 hname, ← h.key_eq e he]

/-- The held sources have different names. -/
theorem pairwise_held (h : c.WellKept) :
    c.held.Pairwise fun s t => sameName s.name t.name = false := by
  refine List.pairwise_map.2 ((List.pairwise_map.1 h.nodup).imp_of_mem fun {d e} hd he hne => ?_)
  rw [h.key_eq d hd, h.key_eq e he] at hne
  rw [← Bool.not_eq_true, ← keyOf_eq_iff]
  exact hne

end WellKept

/-! ## Listings -/

theorem sources_eq (c : Catalog) :
    c.sources = c.held.insertionSort fun s t => s.name ≤ t.name := by
  have hinsert : ∀ s sources, insertByName s sources =
      List.orderedInsert (fun s t : Source => s.name ≤ t.name) s sources := by
    intro s sources
    induction sources with
    | nil => rfl
    | cons t sources ih => simp only [insertByName, List.orderedInsert_cons, ih]
  rw [sources, List.insertionSort, held, funext₂ hinsert]

theorem perm_sources (c : Catalog) : c.sources.Perm c.held := by
  rw [sources_eq]
  exact List.perm_insertionSort _ _

/-- A listing goes up by name, without a name twice. -/
theorem WellKept.pairwise_sources {c : Catalog} (h : c.WellKept) :
    c.sources.Pairwise fun s t => s.name < t.name ∧ sameName s.name t.name = false := by
  have hsymm : ∀ {s t : Source}, sameName s.name t.name = false →
      sameName t.name s.name = false := by
    intro s t hst
    rwa [Text.sameName_comm]
  have hdistinct := (perm_sources c).symm.pairwise h.pairwise_held hsymm
  have htotal : Std.Total fun s t : Source => s.name ≤ t.name := ⟨fun _ _ => String.le_total _ _⟩
  have htrans : IsTrans Source fun s t => s.name ≤ t.name := ⟨fun _ _ _ => String.le_trans⟩
  have hsorted : c.sources.Pairwise fun s t => s.name ≤ t.name := by
    rw [sources_eq]
    exact List.pairwise_insertionSort _ _
  refine (hsorted.and hdistinct).imp fun {s t} hst => ⟨?_, hst.2⟩
  by_contra hlt
  have heq := String.le_antisymm hst.1 hlt
  simp [heq] at hst

/-- Catalogs that hold the same sources are listed alike. -/
theorem WellKept.sources_eq_of_mem_iff {c d : Catalog} (hc : c.WellKept) (hd : d.WellKept)
    (h : ∀ s, s ∈ c.held ↔ s ∈ d.held) : c.sources = d.sources := by
  have hirrefl : Std.Irrefl fun s t : Source => s.name < t.name := ⟨fun _ => String.lt_irrefl _⟩
  have hantisymm : Std.Antisymm fun s t : Source => s.name < t.name :=
    ⟨fun s t hst hts => absurd (String.lt_trans hst hts) (String.lt_irrefl _)⟩
  refine List.Pairwise.eq_of_mem_iff (hc.pairwise_sources.imp And.left)
    (hd.pairwise_sources.imp And.left) fun s => ?_
  rw [(perm_sources c).mem_iff, (perm_sources d).mem_iff, h]

/-- What a catalog shows of a history: under each name the registration that has survived, and in
its listings all of them by name, in the order of bytes. The order in which the sources are held
does not matter. -/
structure Reflects (c : Catalog) (history : List Step) : Prop where
  find?_eq_some_iff : ∀ name s, c.find? name = some s ↔
    Survives history s ∧ sameName s.name name = true
  mem_sources_iff : ∀ s, s ∈ c.sources ↔ Survives history s
  increasing : c.sources.Pairwise fun s t => Utf8.ofString s.name < Utf8.ofString t.name
  distinct : c.sources.Pairwise fun s t => sameName s.name t.name = false
  size_eq : c.size = c.sources.length
  isEmpty_eq : c.isEmpty = c.sources.isEmpty
  materialized_eq : c.materialized =
    c.sources.filter fun s => s.kind == .table || s.kind == .materializedView
  order_irrelevant : ∀ entries, entries.Perm c.entries → (Catalog.mk entries).sources = c.sources

theorem WellKept.of_perm {c : Catalog} (h : c.WellKept) {entries : List (String × Source)}
    (hperm : entries.Perm c.entries) : (Catalog.mk entries).WellKept where
  key_eq := fun e he => h.key_eq e (hperm.mem_iff.1 he)
  nodup := (hperm.map Prod.fst).nodup_iff.2 h.nodup

theorem WellKept.reflects {c : Catalog} (h : c.WellKept) {history : List Step}
    (hheld : ∀ s, s ∈ c.held ↔ Survives history s) : c.Reflects history where
  find?_eq_some_iff := by
    intro name s
    rw [h.find?_eq_some_iff, hheld]
  mem_sources_iff := by
    intro s
    rw [(perm_sources c).mem_iff, hheld]
  increasing := h.pairwise_sources.imp fun hst => Utf8.ofString_lt hst.1
  distinct := h.pairwise_sources.imp And.right
  size_eq := by
    rw [(perm_sources c).length_eq, size, held, List.length_map]
  isEmpty_eq := by
    rw [(perm_sources c).isEmpty_eq, isEmpty, held, List.isEmpty_map]
  materialized_eq := by
    refine List.filter_congr fun s _ => ?_
    cases s.kind <;> rfl
  order_irrelevant := by
    intro entries hperm
    exact (h.of_perm hperm).sources_eq_of_mem_iff h fun s => (hperm.map Prod.snd).mem_iff

end Catalog

/-- A document is a list of sources, which are registered in their order. -/
theorem Catalog.ofJson_eq_ok_iff {text : String} {c : Catalog} : Catalog.ofJson text = .ok c ↔
    ∃ items loaded, (Json.Tree.read? text.toList).bind Json.Tree.items? = some items ∧
      items.mapM Catalog.sourceOfTree? = some loaded ∧ c = .ofList loaded := by
  unfold ofJson sourcesOfTree?
  cases Json.Tree.read? text.toList with
  | none => simp
  | some tree =>
    cases htree : tree.items? with
    | none => simp [htree]
    | some items => cases hitems : items.mapM sourceOfTree? <;> simp [htree, hitems, eq_comm]

/-! ## Steps and runs -/

namespace Session

open Catalog

/-- A step keeps every source under its folded name, and no name twice. -/
theorem wellKept_step {s : Session} (h : s.catalog.WellKept) (step : Step) :
    (s.step step).2.catalog.WellKept := by
  cases step with
  | register source => exact h.register source
  | deregister name => exact h.deregister name
  | _ => exact h

/-- Behind a step, a catalog holds the source that the step registers and those whose names it
leaves alone. -/
theorem mem_held_step {s : Session} (h : s.catalog.WellKept) (step : Step) (source : Source) :
    source ∈ (s.step step).2.catalog.held ↔
      step = .register source ∨ source ∈ s.catalog.held ∧ ¬ step.Renews source.name := by
  cases step with
  | register other =>
    have hregister := h.mem_held_register (s := source) (t := other)
    simp only [Step.Renews, Bool.not_eq_true, Step.register.injEq, eq_comm (a := other)]
    exact hregister
  | deregister name =>
    have hderegister := h.mem_held_deregister name (s := source)
    simp only [Step.Renews, Bool.not_eq_true, reduceCtorEq, false_or]
    exact hderegister
  | _ => simp [Step.Renews, Session.step]

/-- Behind a run, a catalog that was empty at first holds the sources whose registrations have
survived. -/
theorem wellKept_run {s : Session} (hs : s.catalog = .empty) (steps : List Step) :
    (s.run steps).2.catalog.WellKept ∧
      ∀ source, source ∈ (s.run steps).2.catalog.held ↔ Survives steps source := by
  -- From the end: whether a registration survives is decided by the steps behind it.
  induction steps using List.reverseRecOn with
  | nil =>
    rw [run, hs]
    refine ⟨wellKept_empty, fun source => ?_⟩
    simp [Survives, held, empty]
  | append_singleton steps step ih =>
    obtain ⟨hkept, hheld⟩ := ih
    have hrun : (s.run (steps ++ [step])).2 = ((s.run steps).2.step step).2 := by
      rw [run_append]
      rfl
    rw [hrun]
    refine ⟨wellKept_step hkept step, fun source => ?_⟩
    rw [mem_held_step hkept, survives_concat, hheld]

/-- Registering sources one after the other loads them. -/
theorem run_register (c : Catalog) (store : Store) (service : Service) (sources : List Source) :
    ((Session.mk c store service).run (sources.map .register)).2 =
      ⟨sources.foldl Catalog.register c, store, service⟩ := by
  induction sources generalizing c with
  | nil => rfl
  | cons source sources ih => exact ih (c.register source)

/-- A session that starts with a loaded catalog, behind some steps. -/
def behindLoading (loaded : List Source) (store : Store) (service : Service) (steps : List Step) :
    Session :=
  ((Session.mk (.ofList loaded) store service).run steps).2

variable (loaded : List Source) (store : Store) (service : Service) (steps : List Step)

/-- Loading counts as registering the loaded sources in their order. -/
theorem behindLoading_eq : behindLoading loaded store service steps =
    ((Session.mk .empty store service).run (loaded.map .register ++ steps)).2 := by
  rw [run_append, run_register]
  rfl

theorem wellKept_behindLoading :
    (behindLoading loaded store service steps).catalog.WellKept ∧
      ∀ source, source ∈ (behindLoading loaded store service steps).catalog.held ↔
        Survives (loaded.map .register ++ steps) source := by
  rw [behindLoading_eq]
  exact wellKept_run rfl _

/-- A catalog is a map without regard to case in which the last registration wins. It reflects its
history, whatever else the steps did. Registrations and removals answer what was found under the
name right before, a listing depends on the surviving registrations only, and reading a document
registers its items in their order. -/
theorem last_registration_wins :
    (behindLoading loaded store service steps).catalog.Reflects
      (loaded.map .register ++ steps) ∧
    (∀ name, ((behindLoading loaded store service steps).step (.find name)).1 =
        .source ((behindLoading loaded store service steps).catalog.find? name) ∧
      ((behindLoading loaded store service steps).step (.deregister name)).1 =
        ((behindLoading loaded store service steps).step (.find name)).1 ∧
      ∀ source : Source, sameName source.name name = true →
        ((behindLoading loaded store service steps).step (.register source)).1 =
          ((behindLoading loaded store service steps).step (.find name)).1) ∧
    (∀ loaded' store' service' steps',
      (∀ source, Survives (loaded.map .register ++ steps) source ↔
        Survives (loaded'.map .register ++ steps') source) →
      (behindLoading loaded store service steps).catalog.sources =
        (behindLoading loaded' store' service' steps').catalog.sources) ∧
    ∀ text c, Catalog.ofJson text = .ok c ↔
      ∃ items loaded, (Json.Tree.read? text.toList).bind Json.Tree.items? = some items ∧
        items.mapM Catalog.sourceOfTree? = some loaded ∧ c = .ofList loaded := by
  obtain ⟨hkept, hheld⟩ := wellKept_behindLoading loaded store service steps
  refine ⟨hkept.reflects hheld, fun name => ⟨rfl, rfl, fun source hname => ?_⟩, ?_,
    fun text c => Catalog.ofJson_eq_ok_iff⟩
  · have hkey : Catalog.keyOf source.name = Catalog.keyOf name := keyOf_eq_iff.2 hname
    simp only [step, Catalog.find?, hkey]
  · intro loaded' store' service' steps' hsurvive
    obtain ⟨hkept', hheld'⟩ := wellKept_behindLoading loaded' store' service' steps'
    refine hkept.sources_eq_of_mem_iff hkept' fun source => ?_
    rw [hheld, hheld', hsurvive]

end Session

end MatView
