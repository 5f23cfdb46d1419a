import Hashgraph.Proofs.AncestryRun

/-! A tipset is exactly the highest number of each member among the known ancestors, and without forgotten
events it does not depend on the order in which the events arrived. -/

namespace Hashgraph

namespace Ancestry

def Addition.Exact (roster : Roster) (additions : List Addition) (addition : Addition) : Prop :=
  ∀ node, roster.contains node = true →
    Tipset.IsHighest (AncestorNumber additions addition.descriptor node) (addition.tipset.tip roster node)

structure Traced (roster : Roster) (record : Record) : Prop where
  kept : ∀ descriptor tipset, record.ancestry.tipset? descriptor = some tipset →
    ∃ addition ∈ record.additions, addition.descriptor = descriptor ∧ addition.tipset = tipset
  fits : ∀ addition ∈ record.additions, addition.tipset.tips.length = roster.size
  grounded : Grounded record.additions
  /-- A parent that is still tracked was tracked when its child arrived behind it. -/
  remembered : ∀ addition older, addition :: older <:+ record.additions → ∀ parent ∈ addition.arrival.parents,
    parent ∈ older.map Addition.descriptor → (record.ancestry.tipset? parent).isSome = true →
      parent ∈ addition.known
  exact : ∀ addition ∈ record.additions, addition.Exact roster record.additions

theorem no_number_of_self {self : NodeId} {additions : List Addition}
    (owned : ∀ addition ∈ additions, addition.arrival.BelongsTo self) (descriptor : EventDescriptor)
    (nGen : Generation) : ¬AncestorNumber additions descriptor self nGen := by
  rintro ⟨⟨arrival, known, tipset⟩, member, _, created, number⟩
  have belongs := owned _ member
  cases arrival with
  | peer event => exact belongs created
  | own descriptor parents => simp [Arrival.number?] at number

theorem Traced.start (roster : Roster) (mode : AncientMode) : Traced roster ⟨.start roster mode, []⟩ := by
  constructor
  case kept =>
    intro descriptor tipset found
    simp at found
  case fits =>
    intro addition impossible
    simp at impossible
  case grounded =>
    intro addition older suffix_
    simp at suffix_
  case remembered =>
    intro addition older suffix_
    simp at suffix_
  case exact =>
    intro addition impossible
    simp at impossible

theorem Traced.install {roster : Roster} {record : Record} (traced : Traced roster record)
    (window : EventWindow) :
    Traced roster { record with ancestry := record.ancestry.setWindow window } := by
  have before : ∀ descriptor tipset, (record.ancestry.setWindow window).tipset? descriptor = some tipset →
      record.ancestry.tipset? descriptor = some tipset := by
    intro descriptor tipset found
    rw [tipset?_setWindow, Option.filter_eq_some_iff] at found
    exact found.1
  constructor
  case kept => exact fun descriptor tipset found => traced.kept descriptor tipset (before descriptor tipset found)
  case fits => exact traced.fits
  case grounded => exact traced.grounded
  case remembered =>
    intro addition older suffix_ parent named listed tracked
    obtain ⟨tipset, found⟩ := Option.isSome_iff_exists.mp tracked
    exact traced.remembered addition older suffix_ parent named listed
      (Option.isSome_iff_exists.mpr ⟨tipset, before parent tipset found⟩)
  case exact => exact traced.exact

theorem Traced.merged {roster : Roster} {record : Record} (traced : Traced roster record)
    (parents : List EventDescriptor) {node : NodeId} (member : roster.contains node = true) :
    Tipset.IsHighest
      (fun nGen => ∃ parent ∈ parents.filter fun parent => (record.ancestry.tipset? parent).isSome,
        AncestorNumber record.additions parent node nGen)
      ((record.ancestry.mergedParents roster parents).tip roster node) := by
  rw [mergedParents_eq]
  apply Tipset.isHighest_mergeAll
  intro parent known
  obtain ⟨tipset, found⟩ := Option.isSome_iff_exists.mp (List.mem_filter.mp known).2
  obtain ⟨addition, listed, rfl, rfl⟩ := traced.kept parent tipset found
  simpa [found] using traced.exact addition listed node member

theorem Traced.receive_exact {roster : Roster} {self : NodeId} {record : Record}
    (traced : Traced roster record) (arrival : Arrival)
    (owned : ∀ addition ∈ (record.next roster mode (.add arrival)).additions, addition.arrival.BelongsTo self)
    (grounded : Grounded (record.next roster mode (.add arrival)).additions)
    (fresh : arrival.descriptor ∉ record.descriptors) :
    Addition.Exact roster (record.next roster mode (.add arrival)).additions
      ⟨arrival, arrival.parents.filter fun parent => (record.ancestry.tipset? parent).isSome,
        (record.ancestry.receive roster arrival).1⟩ := by
  intro node member
  have belongs : arrival.BelongsTo self := owned _ List.mem_cons_self
  have inherited := traced.merged arrival.parents member
  have numbers := fun nGen => ancestorNumber_latest_iff grounded fresh node nGen
  simp only [Addition.descriptor] at numbers ⊢
  rw [tip_receive record.ancestry arrival belongs member]
  cases arrival with
  | peer event =>
      by_cases created : event.creator = node
      · simp only [created, if_true]
        apply (inherited.higher (Tipset.isHighest_self event.nGen)).congr
        intro nGen
        rw [Record.next, numbers nGen]
        have same : event.descriptor.creator = node := created
        simp [Arrival.descriptor, Arrival.number?, same]
      · simp only [created, if_false]
        apply inherited.congr
        intro nGen
        rw [Record.next, numbers nGen]
        have different : event.descriptor.creator ≠ node := created
        simp [Arrival.descriptor, different]
  | own descriptor parents =>
      by_cases same : node = self
      · subst same
        simp only [if_true]
        exact fun nGen => no_number_of_self owned _ nGen
      · simp only [same, if_false]
        apply inherited.congr
        intro nGen
        rw [Record.next, numbers nGen]
        simp [Arrival.number?]

theorem Traced.grounded_add {roster : Roster} {record : Record} (traced : Traced roster record) (mode : AncientMode)
    (arrival : Arrival) : Grounded (record.next roster mode (.add arrival)).additions := by
  intro addition older suffix_ parent known
  rcases List.suffix_cons_iff.mp suffix_ with latest | earlier
  · cases latest
    obtain ⟨named, some_⟩ := List.mem_filter.mp known
    obtain ⟨tipset, found⟩ := Option.isSome_iff_exists.mp some_
    obtain ⟨before, listed, same, _⟩ := traced.kept parent tipset found
    exact ⟨named, List.mem_map.mpr ⟨before, listed, same⟩⟩
  · exact traced.grounded addition older earlier parent known

theorem Traced.add {roster : Roster} {self : NodeId} {record : Record} (traced : Traced roster record)
    (mode : AncientMode) (arrival : Arrival)
    (owned : ∀ addition ∈ (record.next roster mode (.add arrival)).additions, addition.arrival.BelongsTo self)
    (fresh : arrival.descriptor ∉ record.descriptors) : Traced roster (record.next roster mode (.add arrival)) := by
  have unlisted : ∀ known tipset,
      Addition.descriptor ⟨arrival, known, tipset⟩ ∉ record.additions.map Addition.descriptor :=
    fun _ _ => fresh
  have tracked : ∀ descriptor, (record.ancestry.receive roster arrival).2.tipset? descriptor =
      if arrival.descriptor = descriptor ∧ record.ancestry.window.isAncient arrival.descriptor = false then
        some (record.ancestry.receive roster arrival).1
      else record.ancestry.tipset? descriptor := tipset?_receive record.ancestry roster arrival
  have grounded := traced.grounded_add mode arrival
  constructor
  case kept =>
    intro descriptor tipset found
    simp only [Record.next, tracked] at found
    split at found
    · rename_i stored
      cases found
      exact ⟨_, List.mem_cons_self, stored.1, rfl⟩
    · obtain ⟨addition, listed, same⟩ := traced.kept descriptor tipset found
      exact ⟨addition, List.mem_cons_of_mem _ listed, same⟩
  case fits =>
    intro addition listed
    rcases List.mem_cons.mp listed with latest | earlier
    · subst latest
      exact length_receive _ _ _
    · exact traced.fits addition earlier
  case grounded => exact grounded
  case remembered =>
    intro addition older suffix_ parent named listed isTracked
    have known : parent ≠ arrival.descriptor → (record.ancestry.tipset? parent).isSome = true := by
      intro different
      simpa [Record.next, tracked, different.symm] using isTracked
    rcases List.suffix_cons_iff.mp suffix_ with latest | earlier
    · cases latest
      apply List.mem_filter.mpr
      exact ⟨named, known fun same => fresh (same ▸ listed)⟩
    · apply traced.remembered addition older earlier parent named listed
      apply known
      rintro rfl
      obtain ⟨other, member, same⟩ := List.mem_map.mp listed
      exact fresh (List.mem_map.mpr ⟨other, (earlier.subset (List.mem_cons_of_mem _ member)), same⟩)
  case exact =>
    intro addition listed
    rcases List.mem_cons.mp listed with latest | earlier
    · subst latest
      exact traced.receive_exact arrival owned grounded fresh
    · intro node member
      have named : addition.descriptor ∈ record.additions.map Addition.descriptor :=
        List.mem_map.mpr ⟨addition, earlier, rfl⟩
      apply (traced.exact addition earlier node member).congr
      intro nGen
      exact (ancestorNumber_older_iff traced.grounded (unlisted _ _) named node nGen).symm

theorem traced_ofSteps (roster : Roster) (self : NodeId) (mode : AncientMode) (steps : List Step)
    (owned : ∀ step ∈ steps, step.BelongsTo self) :
    (∀ addition ∈ (Record.ofSteps roster mode steps).additions, addition.arrival.BelongsTo self) ∧
      ((Record.ofSteps roster mode steps).descriptors.Nodup → Traced roster (Record.ofSteps roster mode steps)) := by
  apply Record.ofSteps_induction roster mode steps
    (motive := fun record => (∀ addition ∈ record.additions, addition.arrival.BelongsTo self) ∧
      (record.descriptors.Nodup → Traced roster record))
  · exact ⟨fun addition impossible => by simp at impossible, fun _ => .start roster mode⟩
  · intro record before step listed
    cases step with
    | add arrival =>
        have belongs : ∀ addition ∈ (record.next roster mode (.add arrival)).additions,
            addition.arrival.BelongsTo self := by
          intro addition member
          rcases List.mem_cons.mp member with latest | earlier
          · subst latest
            exact owned _ listed
          · exact before.1 addition earlier
        refine ⟨belongs, ?_⟩
        intro once
        obtain ⟨fresh, distinct⟩ := List.nodup_cons.mp once
        exact (before.2 distinct).add mode arrival belongs fresh
    | install window => exact ⟨before.1, fun once => (before.2 once).install window⟩
    | clear => exact ⟨fun addition impossible => by simp [Record.next] at impossible, fun _ => .start roster mode⟩

namespace Record

def ParentsFirst (record : Record) : Prop :=
  record.additions.Pairwise fun later earlier => later.descriptor ∉ earlier.arrival.parents

def Complete (record : Record) : Prop :=
  ∀ descriptor ∈ record.descriptors, (record.ancestry.tipset? descriptor).isSome = true

instance (record : Record) : Decidable record.ParentsFirst :=
  inferInstanceAs (Decidable (record.additions.Pairwise _))

instance (record : Record) : Decidable record.Complete :=
  inferInstanceAs (Decidable (∀ descriptor ∈ record.descriptors, _))

end Record

/-- A record in which every event arrived once, behind its parents, and is still tracked. -/
structure Whole (roster : Roster) (record : Record) : Prop where
  traced : Traced roster record
  once : record.descriptors.Nodup
  parentsFirst : record.ParentsFirst
  complete : record.Complete

theorem Whole.known_iff {roster : Roster} {record : Record} (whole : Whole roster record)
    {addition : Addition} (member : addition ∈ record.additions) (parent : EventDescriptor) :
    parent ∈ addition.known ↔
      parent ∈ addition.arrival.parents ∧ parent ∈ record.descriptors ∧ parent ≠ addition.descriptor := by
  have once := whole.once
  obtain ⟨newer, older, parts, suffix_⟩ := exists_suffix member
  have places : record.descriptors =
      newer.map Addition.descriptor ++ addition.descriptor :: older.map Addition.descriptor := by
    simp [Record.descriptors, parts]
  constructor
  · intro known
    obtain ⟨named, before⟩ := whole.traced.grounded addition older suffix_ parent known
    refine ⟨named, by simp [places, before], ?_⟩
    rintro rfl
    rw [places] at once
    have distinct := (List.nodup_cons.mp (List.nodup_append.mp once).2.1).1
    exact distinct before
  · rintro ⟨named, listed, different⟩
    have tracked := whole.complete parent listed
    rw [places, List.mem_append, List.mem_cons] at listed
    rcases listed with behind | same | before
    · obtain ⟨later, laterMember, rfl⟩ := List.mem_map.mp behind
      have inOrder := whole.parentsFirst
      unfold Record.ParentsFirst at inOrder
      rw [parts] at inOrder
      have ordered := (List.pairwise_append.mp inOrder).2.2 later laterMember addition List.mem_cons_self
      exact absurd named ordered
    · exact absurd same different
    · exact whole.traced.remembered addition older suffix_ parent named before tracked

theorem Ancestor.transfer {roster : Roster} {first second : Record} (wholeFirst : Whole roster first)
    (wholeSecond : Whole roster second)
    (same : (first.additions.map Addition.arrival).Perm (second.additions.map Addition.arrival))
    {descriptor ancestor : EventDescriptor} (path : Ancestor first.additions descriptor ancestor) :
    Ancestor second.additions descriptor ancestor := by
  have names : ∀ record : Record, record.descriptors =
      (record.additions.map Addition.arrival).map Arrival.descriptor := by
    intro record
    simp [Record.descriptors, Addition.descriptor]
  induction path with
  | refl descriptor => exact .refl descriptor
  | @step addition parent ancestor member known _ ih =>
      -- The same arrival in the second record knows the same parents, because nothing is forgotten in either.
      have arrived : addition.arrival ∈ second.additions.map Addition.arrival :=
        same.subset (List.mem_map.mpr ⟨addition, member, rfl⟩)
      obtain ⟨twin, twinMember, equal⟩ := List.mem_map.mp arrived
      have named : twin.descriptor = addition.descriptor := congrArg Arrival.descriptor equal
      obtain ⟨parental, listed, different⟩ := (wholeFirst.known_iff member parent).mp known
      have twinKnown : parent ∈ twin.known := by
        apply (wholeSecond.known_iff twinMember parent).mpr
        refine ⟨equal ▸ parental, ?_, named ▸ different⟩
        rw [names] at listed ⊢
        exact (same.map _).subset listed
      exact named ▸ .step twinMember twinKnown ih

theorem AncestorNumber.transfer {first second : Record}
    (same : (first.additions.map Addition.arrival).Perm (second.additions.map Addition.arrival))
    (paths : ∀ {descriptor ancestor}, Ancestor first.additions descriptor ancestor →
      Ancestor second.additions descriptor ancestor)
    {descriptor : EventDescriptor} {creator : NodeId} {nGen : Generation}
    (number : AncestorNumber first.additions descriptor creator nGen) :
    AncestorNumber second.additions descriptor creator nGen := by
  obtain ⟨addition, member, path, created, brought⟩ := number
  have arrived : addition.arrival ∈ second.additions.map Addition.arrival :=
    same.subset (List.mem_map.mpr ⟨addition, member, rfl⟩)
  obtain ⟨twin, twinMember, equal⟩ := List.mem_map.mp arrived
  have named : twin.descriptor = addition.descriptor := congrArg Arrival.descriptor equal
  exact ⟨twin, twinMember, named ▸ paths path, named ▸ created, equal ▸ brought⟩

theorem tipset?_eq_of_perm {roster : Roster} {first second : Record} (wholeFirst : Whole roster first)
    (wholeSecond : Whole roster second)
    (same : (first.additions.map Addition.arrival).Perm (second.additions.map Addition.arrival))
    (descriptor : EventDescriptor) :
    first.ancestry.tipset? descriptor = second.ancestry.tipset? descriptor := by
  have forward := @Ancestor.transfer roster first second wholeFirst wholeSecond same
  have backward := @Ancestor.transfer roster second first wholeSecond wholeFirst same.symm
  have members : ∀ descriptor, descriptor ∈ first.descriptors ↔ descriptor ∈ second.descriptors := by
    intro descriptor
    have both := (same.map Arrival.descriptor).mem_iff (a := descriptor)
    simpa [Record.descriptors, Addition.descriptor] using both
  have listed : ∀ record : Record, Traced roster record → ∀ tipset,
      record.ancestry.tipset? descriptor = some tipset → descriptor ∈ record.descriptors := by
    intro record traced tipset found
    obtain ⟨addition, member, named, _⟩ := traced.kept descriptor tipset found
    exact List.mem_map.mpr ⟨addition, member, named⟩
  cases foundFirst : first.ancestry.tipset? descriptor with
  | none =>
      cases foundSecond : second.ancestry.tipset? descriptor with
      | none => rfl
      | some tipset =>
          have present := wholeFirst.complete descriptor
            ((members descriptor).mpr (listed second wholeSecond.traced _ foundSecond))
          simp [foundFirst] at present
  | some tipset =>
      have present := wholeSecond.complete descriptor
        ((members descriptor).mp (listed first wholeFirst.traced _ foundFirst))
      obtain ⟨other, foundSecond⟩ := Option.isSome_iff_exists.mp present
      obtain ⟨addition, member, rfl, rfl⟩ := wholeFirst.traced.kept descriptor tipset foundFirst
      obtain ⟨twin, twinMember, named, rfl⟩ := wholeSecond.traced.kept _ other foundSecond
      rw [foundSecond]
      congr 1
      apply Tipset.ext_of_tips (wholeFirst.traced.fits addition member) (wholeSecond.traced.fits twin twinMember)
      intro node contained
      apply (wholeFirst.traced.exact addition member node contained).unique
      have exactTwin := wholeSecond.traced.exact twin twinMember node contained
      rw [named] at exactTwin
      apply exactTwin.congr
      intro nGen
      exact ⟨AncestorNumber.transfer same.symm backward, AncestorNumber.transfer same forward⟩

/-- In every run in which no event is added twice between clearings, each tipset has at every other member the
highest number among the ancestors and nothing at the node itself, from its addition on and as long as it is
tracked; and complete runs of the same events, each with parents first, end with the same tipsets. -/
theorem tips_are_highest_of_ancestors (roster : Roster) (self : NodeId) (mode : AncientMode) (steps : List Step)
    (owned : ∀ step ∈ steps, step.BelongsTo self)
    (once : (Record.ofSteps roster mode steps).descriptors.Nodup) :
    let record := Record.ofSteps roster mode steps
    (∀ addition ∈ record.additions,
      addition.tipset.tip roster self = none ∧
        ∀ node, roster.contains node = true → node ≠ self →
          Tipset.IsHighest (AncestorNumber record.additions addition.descriptor node)
            (addition.tipset.tip roster node)) ∧
      (∀ descriptor tipset, record.ancestry.tipset? descriptor = some tipset →
        ∃ addition ∈ record.additions, addition.descriptor = descriptor ∧ addition.tipset = tipset) ∧
      ∀ others : List Step, (∀ step ∈ others, step.BelongsTo self) →
        let second := Record.ofSteps roster mode others
        second.descriptors.Nodup →
        (record.additions.map Addition.arrival).Perm (second.additions.map Addition.arrival) →
        record.ParentsFirst → second.ParentsFirst → record.Complete → second.Complete →
          ∀ descriptor, record.ancestry.tipset? descriptor = second.ancestry.tipset? descriptor := by
  intro record
  obtain ⟨belongs, tracing⟩ := traced_ofSteps roster self mode steps owned
  have traced := tracing once
  refine ⟨?_, traced.kept, ?_⟩
  · intro addition member
    refine ⟨?_, fun node contained _ => traced.exact addition member node contained⟩
    cases contained : roster.contains self with
    | false =>
        apply Tipset.tip_of_stranger
        simpa [Roster.contains] using contained
    | true =>
        apply (traced.exact addition member self contained).unique
        exact fun nGen => no_number_of_self belongs addition.descriptor nGen
  · intro others ownedOthers second onceSecond same orderFirst orderSecond completeFirst completeSecond
    have tracedSecond := (traced_ofSteps roster self mode others ownedOthers).2 onceSecond
    exact tipset?_eq_of_perm ⟨traced, once, orderFirst, completeFirst⟩
      ⟨tracedSecond, onceSecond, orderSecond, completeSecond⟩ same

def threeMembers : Roster := ⟨[⟨⟨0⟩, 1⟩, ⟨⟨1⟩, 1⟩, ⟨⟨2⟩, 1⟩], 3, by decide, by decide, by decide⟩

def relayArrivals : List Arrival :=
  let first := sampleEvent 1 [] 1 4
  let second := sampleEvent 2 [] 1 0
  let third := sampleEvent 1 [first.descriptor, second.descriptor] 1 7
  [.peer first, .peer second, .peer third, .own ⟨⟨0⟩, 1, 2, .zero⟩ [third.descriptor]]

def relayRun : List Step := relayArrivals.map Step.add

def swappedRun : List Step :=
  [relayArrivals[1], relayArrivals[0], relayArrivals[2], relayArrivals[3]].map Step.add

theorem relayRun_tips :
    let first := Record.ofSteps threeMembers .birthRoundThreshold relayRun
    let second := Record.ofSteps threeMembers .birthRoundThreshold swappedRun
    (∃ addition ∈ first.additions, addition.descriptor.creator = ⟨0⟩ ∧
      Tipset.IsHighest (AncestorNumber first.additions addition.descriptor ⟨1⟩) (some 7) ∧
      addition.tipset.tip threeMembers ⟨0⟩ = none) ∧
      ∀ descriptor, first.ancestry.tipset? descriptor = second.ancestry.tipset? descriptor := by
  have facts :
      let first := Record.ofSteps threeMembers .birthRoundThreshold relayRun
      let second := Record.ofSteps threeMembers .birthRoundThreshold swappedRun
      (∀ step ∈ relayRun, step.BelongsTo ⟨0⟩) ∧ (∀ step ∈ swappedRun, step.BelongsTo ⟨0⟩) ∧
        first.descriptors.Nodup ∧ second.descriptors.Nodup ∧
        (first.additions.map Addition.arrival).Perm (second.additions.map Addition.arrival) ∧
        first.ParentsFirst ∧ second.ParentsFirst ∧ first.Complete ∧ second.Complete ∧
        ∃ addition ∈ first.additions, addition.descriptor.creator = ⟨0⟩ ∧
          addition.tipset.tip threeMembers ⟨1⟩ = some 7 := by
    decide +kernel
  obtain ⟨ownedFirst, ownedSecond, onceFirst, onceSecond, same, orderFirst, orderSecond, completeFirst,
    completeSecond, addition, member, own, tip⟩ := facts
  obtain ⟨highest, _, agree⟩ := tips_are_highest_of_ancestors threeMembers ⟨0⟩ .birthRoundThreshold relayRun
    ownedFirst onceFirst
  obtain ⟨nothing, others⟩ := highest addition member
  refine ⟨⟨addition, member, own, ?_, nothing⟩, ?_⟩
  · rw [← tip]
    exact others ⟨1⟩ (by decide) (by decide)
  · exact agree swappedRun ownedSecond onceSecond same orderFirst orderSecond completeFirst completeSecond

end Ancestry

end Hashgraph
