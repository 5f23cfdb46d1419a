import Hashgraph.Proofs.ConsensusRun
import Hashgraph.Proofs.Youth

/-! What the end of a round does to consensus. It never fails before the last rounds, takes the window one round
further and its threshold never back, and leaves the numbers of just those events that are not ancient. -/

namespace Hashgraph

namespace Consensus

def Step.isRound : Step → Bool
  | .order _ => false
  | .round => true

def rounds (steps : List Step) : Nat := steps.countP Step.isRound

def Restrained (consensus : Consensus) : Prop :=
  match consensus.window.mode with
  | .birthRoundThreshold => consensus.window.ancientThreshold ≤ consensus.window.newEventBirthRound
  | .generationThreshold =>
      consensus.window.ancientThreshold ≤ max consensus.maxGeneration AncientMode.generationThreshold.firstIndicator

theorem Advanced.order {rounds : Nat} {consensus : Consensus} (advanced : Advanced rounds consensus)
    (event : Event) : Advanced rounds (consensus.order event).2 := by
  rcases consensus.order_cases event with ⟨nGen, _, done⟩ | ⟨_, failed⟩
  · rw [done]
    exact advanced.enter event nGen
  · rw [failed]
    exact advanced

theorem advanced_after (mode : AncientMode) (rosterSize : UInt64) (steps : List Step)
    (fits : mode = .generationThreshold → roundsNonAncient.toNat * rosterSize.toNat < UInt64.size)
    (range : rounds steps + 1 < UInt64.size) : Advanced (rounds steps) ((start mode rosterSize).after steps) := by
  induction steps using List.reverseRecOn with
  | nil => exact .start mode rosterSize fits
  | append_singleton steps step ih =>
      rw [after_concat]
      cases step with
      | order event =>
          have same : rounds (steps ++ [.order event]) = rounds steps := by simp [rounds, Step.isRound]
          rw [same] at range ⊢
          exact (ih range).order event
      | round =>
          have longer : rounds (steps ++ [.round]) = rounds steps + 1 := by simp [rounds, Step.isRound]
          rw [longer] at range ⊢
          obtain ⟨after, done, advanced⟩ := (ih (by omega)).advanceRound range
          have reached : ((start mode rosterSize).after steps).perform .round = after := by
            simp only [Consensus.perform, done]
          rwa [reached]

theorem Advanced.restrained {rounds : Nat} {consensus : Consensus} (advanced : Advanced rounds consensus) :
    consensus.Restrained := by
  unfold Restrained
  split
  · rename_i mode
    exact advanced.threshold_le_birthRound mode
  · rename_i mode
    have low := advanced.orderly.threshold_le_maxGeneration mode
    rw [UInt64.le_iff_toNat_le] at low ⊢
    rw [toNat_max]
    exact Nat.le_trans low (Nat.le_max_left _ _)

theorem ordered_split (before between : List Step) (event : Event) :
    ordered (before ++ .order event :: between) = ordered before ++ event :: ordered between := by
  simp [ordered, Step.event?]

def LowNumbers (mode : AncientMode) (rosterSize : UInt64) (steps : List Step) : Prop :=
  ∀ before event between nGen, steps = before ++ .order event :: between →
    (((start mode rosterSize).after before).order event).1 = .ok (event.withNGen nGen) → nGen < highestGeneration

theorem LowNumbers.of_append {mode : AncientMode} {rosterSize : UInt64} {steps later : List Step}
    (low : LowNumbers mode rosterSize (steps ++ later)) : LowNumbers mode rosterSize steps := by
  intro before event between nGen whole done
  exact low before event (between ++ later) nGen (by simp [whole]) done

theorem LowNumbers.numbersBelow {mode : AncientMode} {rosterSize : UInt64} {steps : List Step}
    (low : LowNumbers mode rosterSize steps) :
    ((start mode rosterSize).after steps).NumbersBelow highestGeneration.toNat := by
  induction steps using List.reverseRecOn with
  | nil =>
      intro hash entry found
      simp [after, start] at found
  | append_singleton steps step ih =>
      have below := ih low.of_append
      rw [after_concat]
      cases step with
      | order event =>
          rcases ((start mode rosterSize).after steps).order_cases event with ⟨nGen, _, done⟩ | ⟨_, failed⟩
          · have small := low steps event [] nGen rfl (congrArg Prod.fst done)
            rw [Consensus.perform, done]
            exact below.enter (Nat.le_refl _) event (UInt64.lt_iff_toNat_lt.mp small)
          · rw [Consensus.perform, failed]
            exact below
      | round => exact below.perform_round

theorem LowNumbers.exists_number {mode : AncientMode} {rosterSize : UInt64} {before between : List Step}
    {event : Event} (low : LowNumbers mode rosterSize (before ++ .order event :: between)) :
    ∃ nGen, ((start mode rosterSize).after before).nextNumber? event = some nGen := by
  obtain ⟨nGen, found, _⟩ := low.of_append.numbersBelow.exists_nextNumber (by decide) event
  exact ⟨nGen, found⟩

theorem lowNumbers_of_length (mode : AncientMode) (rosterSize : UInt64) {steps : List Step}
    (few : (ordered steps).length < UInt64.size) : LowNumbers mode rosterSize steps := by
  intro before event between nGen whole done
  have length : (ordered before).length < (ordered steps).length := by
    rw [whole, ordered_split, List.length_append, List.length_cons]
    omega
  obtain ⟨next, found, bound⟩ :=
    (numbersBelow_after mode rosterSize before (by omega)).exists_nextNumber (by omega) event
  rw [order_of_numbered found, Except.ok.injEq] at done
  have same : next = nGen := Option.some.inj (congrArg Event.nGen done)
  rw [UInt64.lt_iff_toNat_lt, highestGeneration, ← same]
  simp only [UInt64.reduceToNat, UInt64.size] at few ⊢
  omega

theorem listed_of_held {mode : AncientMode} {rosterSize : UInt64} {steps : List Step} {hash : EventHash}
    {entry : EventDescriptor × Generation}
    (held : ((start mode rosterSize).after steps).numbers.find? hash = some entry) :
    ∃ event ∈ ordered steps, event.hash = hash ∧ event.descriptor = entry.1 := by
  induction steps using List.reverseRecOn with
  | nil => simp [after, start] at held
  | append_singleton steps step ih =>
      have earlier : ((start mode rosterSize).after steps).numbers.find? hash = some entry →
          ∃ event ∈ ordered (steps ++ [step]), event.hash = hash ∧ event.descriptor = entry.1 := by
        intro found
        obtain ⟨event, listed, named⟩ := ih found
        exact ⟨event, by simpa [ordered] using Or.inl listed, named⟩
      rw [after_concat] at held
      cases step with
      | order event =>
          rcases ((start mode rosterSize).after steps).order_cases event with ⟨_, _, done⟩ | ⟨_, failed⟩
          · rw [Consensus.perform, done] at held
            simp only [Consensus.enter, Table.find?_insert] at held
            split at held
            · rename_i same
              cases held
              exact ⟨event, by simp [ordered, Step.event?], same, rfl⟩
            · exact earlier held
          · rw [Consensus.perform, failed] at held
            exact earlier held
      | round =>
          rcases ((start mode rosterSize).after steps).perform_round_cases with same | advanced
          · exact earlier (same ▸ held)
          · rw [(moved_of_advanceRound advanced).numbers, Table.find?_filter, Option.filter_eq_some_iff] at held
            exact earlier held.1

section Round

variable {mode : AncientMode} {rosterSize : UInt64} {steps : List Step} {next : Consensus}
  (advanced : ((start mode rosterSize).after steps).advanceRound = .ok next)

include advanced

theorem young_of_held_behind {hash : EventHash} {entry : EventDescriptor × Generation}
    (held : next.numbers.find? hash = some entry) :
    ∃ event ∈ ordered steps, event.hash = hash ∧ event.descriptor = entry.1 ∧
      next.window.isAncient event.descriptor = false := by
  rw [(moved_of_advanceRound advanced).numbers, Table.find?_filter, Option.filter_eq_some_iff] at held
  obtain ⟨event, listed, same, named⟩ := listed_of_held held.1
  refine ⟨event, listed, same, named, ?_⟩
  simpa [named] using held.2

variable (distinct : ((ordered steps).map Event.hash).Nodup)

include distinct

theorem numberOf?_of_ancient {event : Event} (listed : event ∈ ordered steps)
    (ancient : next.window.isAncient event.descriptor = true) : next.numberOf? event.descriptor = none := by
  rw [numberOf?, Option.map_eq_none_iff]
  by_contra known
  obtain ⟨entry, held⟩ := Option.ne_none_iff_exists'.mp known
  obtain ⟨other, listedToo, same, _, young⟩ := young_of_held_behind advanced held
  have equal : other = event := List.inj_on_of_nodup_map distinct listedToo listed same
  rw [equal, ancient] at young
  exact Bool.noConfusion young

theorem numberOf?_of_young {before between : List Step} {event : Event}
    (whole : steps = before ++ .order event :: between) {nGen : Generation}
    (number : ((start mode rosterSize).after before).nextNumber? event = some nGen)
    (young : next.window.isAncient event.descriptor = false) : next.numberOf? event.descriptor = some nGen := by
  -- The round that ends counts among the steps behind the event.
  have apart : ∀ other ∈ ordered (between ++ [.round]), other.hash ≠ event.hash := by
    intro other listed same
    have later : other ∈ ordered between := by simpa [ordered, Step.event?] using listed
    rw [whole, ordered_split, List.map_append, List.map_cons] at distinct
    have fresh := (List.nodup_cons.mp (List.nodup_append.mp distinct).2.1).1
    exact fresh (same ▸ List.mem_map_of_mem later)
  have orderly : Orderly (((start mode rosterSize).after before).order event).2 :=
    ((Orderly.start mode rosterSize).after before).order event
  have entered : (((start mode rosterSize).after before).order event).2.numbers.find? event.hash =
      some (event.descriptor, nGen) := by
    rw [order_of_numbered number, enter, Table.find?_insert, if_pos rfl]
  have reached : (((start mode rosterSize).after before).order event).2.after (between ++ [.round]) = next := by
    have parts : (((start mode rosterSize).after before).order event).2.after between =
        (start mode rosterSize).after steps := by
      simp [whole, after, Consensus.perform]
    rw [after_concat, parts]
    simp only [Consensus.perform, advanced]
  have found := orderly.find?_after entered (between ++ [.round]) apart
  rw [reached] at found
  exact congrArg (Option.map Prod.snd) (found fun _ => young)

theorem keys_behind (low : LowNumbers mode rosterSize steps) : next.numbers.keys.Perm
    (((ordered steps).filter fun event => !next.window.isAncient event.descriptor).map Event.hash) := by
  have young : (((ordered steps).filter fun event => !next.window.isAncient event.descriptor).map
      Event.hash).Nodup := distinct.sublist (List.filter_sublist.map _)
  refine (List.perm_ext_iff_of_nodup next.numbers.unique young).mpr fun hash => ?_
  change hash ∈ next.numbers.keys ↔ _
  simp only [Table.mem_keys_iff, Table.contains, Option.isSome_iff_exists, List.mem_map, List.mem_filter,
    Bool.not_eq_true']
  constructor
  · rintro ⟨entry, held⟩
    obtain ⟨event, listed, same, _, alive⟩ := young_of_held_behind advanced held
    exact ⟨event, ⟨listed, alive⟩, same⟩
  · rintro ⟨event, ⟨listed, alive⟩, rfl⟩
    obtain ⟨step, member, isEvent⟩ := List.mem_filterMap.mp listed
    obtain ⟨before, between, whole⟩ := List.append_of_mem member
    cases step with
    | round => cases isEvent
    | order other =>
        cases isEvent
        obtain ⟨nGen, given⟩ := (whole ▸ low).exists_number
        have number := numberOf?_of_young advanced distinct whole given alive
        rw [numberOf?, Option.map_eq_some_iff] at number
        obtain ⟨entry, held, _⟩ := number
        exact ⟨entry, held⟩

end Round

/-- Before the last rounds and the highest number, and if consensus can count by generations where it has to, whatever
has been ordered and however many rounds have ended: another round ends without failure. It is the next one, new
events are born one round later, the mode stays, and the threshold is not lowered and never goes beyond new events.
All events have got numbers, and behind the round just those that are not ancient have them still. -/
theorem rounds_move_windows_forward (mode : AncientMode) (rosterSize : UInt64) (steps : List Step)
    (distinct : ((ordered steps).map Event.hash).Nodup) (range : rounds steps + 2 < UInt64.size)
    (fits : mode = .generationThreshold → roundsNonAncient.toNat * rosterSize.toNat < UInt64.size)
    (low : LowNumbers mode rosterSize steps) :
    let consensus := (start mode rosterSize).after steps
    consensus.Restrained ∧
      ∃ next, consensus.advanceRound = .ok next ∧
        next.window.latestConsensusRound.toNat = consensus.window.latestConsensusRound.toNat + 1 ∧
        next.window.newEventBirthRound.toNat = next.window.latestConsensusRound.toNat + 1 ∧
        next.window.mode = consensus.window.mode ∧
        consensus.window.ancientThreshold ≤ next.window.ancientThreshold ∧ next.Restrained ∧
        (∀ before event between, steps = before ++ .order event :: between →
          ∃ nGen, (((start mode rosterSize).after before).order event).1 = .ok (event.withNGen nGen) ∧
            next.numberOf? event.descriptor = if next.window.isAncient event.descriptor then none else some nGen) ∧
        next.numbers.keys.Perm
          (((ordered steps).filter fun event => !next.window.isAncient event.descriptor).map Event.hash) := by
  intro consensus
  have before : Advanced (rounds steps) consensus := advanced_after mode rosterSize steps fits (by omega)
  obtain ⟨next, done, behind⟩ := before.advanceRound range
  have moved := moved_of_advanceRound done
  refine ⟨before.restrained, next, done, moved.latest, moved.birthRound, moved.mode, before.orderly.le_next moved,
    behind.restrained, ?_, keys_behind done distinct low⟩
  intro earlier event between whole
  obtain ⟨nGen, number⟩ := (whole ▸ low).exists_number
  refine ⟨nGen, congrArg Prod.fst (order_of_numbered number), ?_⟩
  split
  · rename_i ancient
    have listed : event ∈ ordered steps := by simp [whole, ordered_split]
    exact numberOf?_of_ancient done distinct listed ancient
  · rename_i young
    exact numberOf?_of_young done distinct whole number (Bool.eq_false_of_not_eq_true young)

def sparseSteps : List Step :=
  .order firstSole :: List.replicate 20 .round ++ .order (soleEvent (some firstSole) 21) ::
    List.replicate 7 .round

theorem sparseSteps_leave_the_second_number :
    let consensus := (start .birthRoundThreshold 1).after sparseSteps
    let second := soleEvent (some firstSole) 21
    consensus.window = ⟨27, 28, 1, .birthRoundThreshold⟩ ∧
      ∃ next, consensus.advanceRound = .ok next ∧ next.window = ⟨28, 29, 2, .birthRoundThreshold⟩ ∧
        next.numberOf? firstSole.descriptor = none ∧ next.numberOf? second.descriptor = some 1 ∧
        next.numbers.keys.Perm [second.hash] := by
  intro consensus second
  have facts :
      ((ordered sparseSteps).map Event.hash).Nodup ∧ consensus.window = ⟨27, 28, 1, .birthRoundThreshold⟩ ∧
        consensus.nextWindow = .ok ⟨28, 29, 2, .birthRoundThreshold⟩ ∧
        (((start .birthRoundThreshold 1).after (.order firstSole :: List.replicate 20 .round)).order second).1 =
          .ok (second.withNGen 1) := by
    decide +kernel
  obtain ⟨distinct, window, moved, second_⟩ := facts
  obtain ⟨_, next, done, _, _, _, _, _, numbers, keys⟩ :=
    rounds_move_windows_forward .birthRoundThreshold 1 sparseSteps distinct (by decide) (by simp)
      (lowNumbers_of_length _ _ (by decide))
  have behind : next.window = ⟨28, 29, 2, .birthRoundThreshold⟩ := by
    rw [advanceRound, show ((start .birthRoundThreshold 1).after sparseSteps).nextWindow = _ from moved] at done
    exact (congrArg Consensus.window (Except.ok.inj done)).symm
  rw [behind] at numbers keys
  refine ⟨window, next, done, behind, ?_, ?_, ?_⟩
  · obtain ⟨_, _, forgotten⟩ := numbers [] firstSole _ rfl
    exact forgotten
  · obtain ⟨nGen, given, kept⟩ :=
      numbers (.order firstSole :: List.replicate 20 .round) second (List.replicate 7 .round) rfl
    rw [second_, Except.ok.injEq] at given
    exact kept.trans (congrArg Event.nGen given).symm
  · exact keys

end Consensus

end Hashgraph
