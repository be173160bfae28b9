import Tabletop.Proofs.Rolling.Explosion

/-!
# Chains of dice

Described one die at a time, an explosion rolls a chain of further dice for every die that reaches the
threshold, and each chain ends with its first die below the threshold. The explosion itself only counts
how many chains are still to end. Both draw the same values in the same order: a chain is a batch in
which one value below the threshold is wanted, and batches drawn one after the other are one batch in
which as many values are wanted as in all of them.
-/

namespace Tabletop

variable {σ : Type} [RandomSource σ]

/-! ## One chain after the other -/

/-- What a play that draws a batch and nothing else leaves behind. -/
def Batch.record (range : Range) (batch : Batch σ) : Record σ (List Int) where
  ending := if batch.complete then .ok batch.values else .error .exhausted
  supply := batch.supply
  draws := batch.values.map (Draw.mk range)
  events := []

/-- Draw, at most `left` times, until the first value below the threshold has come up. -/
def chain (range : Range) (threshold : Int) : (left : Nat) → σ → Batch σ
  | 0, source => ⟨[], ⟨source, 0⟩, false⟩
  | left + 1, source =>
    let (value, next) := RandomSource.draw range source
    if value < threshold then ⟨[value], ⟨next, left⟩, true⟩
    else (chain range threshold left next).cons value

/-- Roll a chain of dice that ends with the first one below the threshold. -/
def rollChain (threshold sides : Int) : Play σ (List Int) := fun supply =>
  (chain (dieRange sides) threshold supply.left supply.source).record (dieRange sides)

/-- Roll a chain for every die that reaches the threshold, one chain after the other. -/
def rollChains (threshold sides : Int) : List Int → Play σ (List Int)
  | [] => return []
  | die :: dice =>
    if threshold ≤ die then do
      let first ← rollChain threshold sides
      let others ← rollChains threshold sides dice
      return first ++ others
    else rollChains threshold sides dice

/-- Explode dice one at a time, each with a chain of its own. -/
def explodeEach (dice : List Int) (threshold sides : Int) : Play σ (List Int) := do
  return ascending (dice ++ (← rollChains threshold sides dice))

/-! ## Batches in a row -/

section Batch

variable {range : Range} {counts : Int → Bool} {left wanted : Nat} {source : σ}

/-- Where nothing may be drawn any more, only an empty batch completes. -/
theorem drawUntil_zero (more : Nat) :
    drawUntil range counts 0 more source = ⟨[], ⟨source, 0⟩, decide (more = 0)⟩ := by
  cases more <;> rfl

/-- A batch stays incomplete only when the whole supply has been used. -/
theorem left_of_incomplete {values : List Int} {after : Supply σ}
    (h : drawUntil range counts left wanted source = ⟨values, after, false⟩) : after.left = 0 := by
  fun_induction drawUntil range counts left wanted source generalizing values with
  | case1 left source => cases h
  | case2 wanted source =>
    cases h
    rfl
  | case3 left wanted source value next hanswer ih =>
    cases hlater : drawUntil range counts left (if counts value then wanted else wanted + 1) next with
    | mk later rest complete =>
      rw [hlater] at h
      cases h
      exact ih hlater

/-- A larger batch is a smaller one with a second one behind it. -/
theorem drawUntil_add (range : Range) (counts : Int → Bool) (left wanted more : Nat) (source : σ) :
    drawUntil range counts left (wanted + more) source =
      let first := drawUntil range counts left wanted source
      let second := drawUntil range counts first.supply.left more first.supply.source
      ⟨first.values ++ second.values, second.supply, first.complete && second.complete⟩ := by
  fun_induction drawUntil range counts left wanted source with
  | case1 left source => simp
  | case2 wanted source =>
    simp only [drawUntil_zero, decide_eq_false (show ¬ wanted.succ + more = 0 by omega)]
    rfl
  | case3 left wanted source value next hanswer ih =>
    have hwanted : (if counts value then wanted + more else wanted + more + 1) =
        (if counts value then wanted else wanted + 1) + more := by
      split <;> omega
    rw [Nat.succ_add, drawUntil, hanswer]
    simp only [hwanted, ih]
    rfl

/-- Two batches in a row are one batch. -/
theorem Play.drawBatch_add (wanted more : Nat) :
    (drawBatch range counts (wanted + more) : Play σ (List Int)) =
      drawBatch range counts wanted >>= fun first =>
        drawBatch range counts more >>= fun second => pure (first ++ second) := by
  funext supply
  change drawBatch range counts (wanted + more) supply = andThen _ _ supply
  simp only [drawBatch, drawUntil_add, andThen]
  cases hfirst : drawUntil range counts supply.left wanted supply.source with
  | mk values middle complete =>
    cases complete with
    | false =>
      -- The supply has been used up, so the second batch is never begun.
      obtain ⟨source, left⟩ := middle
      obtain rfl : left = 0 := left_of_incomplete hfirst
      simp [drawUntil_zero]
    | true =>
      cases hsecond : drawUntil range counts middle.left more middle.source with
      | mk others after complete =>
        cases complete with
        | false => simp [hsecond, drawBatch, bind, andThen]
        | true => simp [hsecond, drawBatch, bind, andThen, pure, succeed]

/-- A batch that follows another one draws from what that one leaves, and both together are as good as
one batch, whether or not they complete. -/
theorem Play.drawBatch_add_apply (wanted more : Nat) (supply : Supply σ) :
    let first := (drawBatch range counts wanted : Play σ (List Int)) supply
    let second := (drawBatch range counts more : Play σ (List Int)) first.supply
    let whole := (drawBatch range counts (wanted + more) : Play σ (List Int)) supply
    whole.draws = first.draws ++ second.draws ∧ whole.supply = second.supply ∧
      whole.ending = first.ending >>= fun a => second.ending >>= fun b => .ok (a ++ b) := by
  intro first second whole
  simp only [first, second, whole, drawBatch, drawUntil_add, List.map_append, true_and]
  cases drawUntil range counts supply.left wanted supply.source with
  | mk values middle complete =>
    cases complete with
    | false => rfl
    | true =>
      cases drawUntil range counts middle.left more middle.source with
      | mk others after complete => cases complete <;> rfl

/-- An empty batch draws nothing. -/
theorem Play.drawBatch_zero : (drawBatch range counts 0 : Play σ (List Int)) = pure [] := by
  funext supply
  simp only [drawBatch, drawUntil]
  rfl

end Batch

/-! ## Chains as batches -/

/-- A chain is a batch in which one value below the threshold is wanted. -/
theorem chain_eq (range : Range) (threshold : Int) (left : Nat) (source : σ) :
    chain range threshold left source =
      drawUntil range (fun die => decide (die < threshold)) left 1 source := by
  fun_induction chain range threshold left source with
  | case1 source => rfl
  | case2 left source value next hanswer hlow =>
    rw [drawUntil, hanswer]
    simp only [hlow, decide_true, ↓reduceIte, drawUntil]
    rfl
  | case3 left source value next hanswer hhigh ih =>
    rw [drawUntil, hanswer]
    simp only [hhigh, decide_false, Bool.false_eq_true, ↓reduceIte, ih, Nat.zero_add]

/-- A chain is rolled as such a batch. -/
theorem rollChain_eq (threshold sides : Int) : (rollChain threshold sides : Play σ (List Int)) =
    Play.drawBatch (dieRange sides) (fun die => decide (die < threshold)) 1 := by
  funext supply
  rw [rollChain, chain_eq]
  rfl

/-- The batch that an explosion draws: as many values below the threshold are wanted as dice reach it. -/
def explosionBatch (dice : List Int) (threshold sides : Int) : Play σ (List Int) :=
  Play.drawBatch (dieRange sides) (fun die => decide (die < threshold)) (reaching threshold dice)

/-- All chains together are the batch of the explosion. -/
theorem rollChains_eq (threshold sides : Int) (dice : List Int) :
    (rollChains threshold sides dice : Play σ (List Int)) = explosionBatch dice threshold sides := by
  induction dice with
  | nil => exact Play.drawBatch_zero.symm
  | cons die dice ih =>
    rw [rollChains, explosionBatch, reaching, List.countP_cons]
    by_cases hdie : threshold ≤ die
    · rw [if_pos hdie, if_pos (decide_eq_true hdie), Nat.add_comm, Play.drawBatch_add, rollChain_eq, ih]
      rfl
    · rw [if_neg hdie, if_neg (by simpa using hdie), ih]
      rfl

/-- The batch of two outcomes is the batch of one and then that of the other. -/
theorem explosionBatch_append (front back : List Int) (threshold sides : Int) (supply : Supply σ) :
    let first := (explosionBatch front threshold sides : Play σ (List Int)) supply
    let second := (explosionBatch back threshold sides : Play σ (List Int)) first.supply
    let whole := (explosionBatch (front ++ back) threshold sides : Play σ (List Int)) supply
    whole.draws = first.draws ++ second.draws ∧ whole.supply = second.supply ∧
      whole.ending = first.ending >>= fun a => second.ending >>= fun b => .ok (a ++ b) := by
  have hcount : reaching threshold (front ++ back) =
      reaching threshold front + reaching threshold back := List.countP_append
  simp only [explosionBatch, hcount]
  exact Play.drawBatch_add_apply _ _ supply

/-! ## Explosions -/

/-- An explosion draws its batch and adds it to the dice. -/
theorem explode_apply {threshold : Int} (hthreshold : 2 ≤ threshold) (dice : List Int) (sides : Int)
    (supply : Supply σ) :
    let batch := (explosionBatch dice threshold sides : Play σ (List Int)) supply
    (explode dice threshold sides supply).draws = batch.draws ∧
      (explode dice threshold sides supply).supply = batch.supply ∧
      (explode dice threshold sides supply).ending =
        batch.ending >>= fun added => .ok (ascending (dice ++ added)) := by
  have hendless : isEndless threshold = false := decide_eq_false (by omega)
  rw [explode, hendless]
  refine Play.bind_of_quiet (fun added middle => ⟨explosionEvents threshold added, ?_⟩) supply
  cases added <;> rfl

/-- Exploding dice one at a time draws the same batch and adds it alike. -/
theorem explodeEach_apply (dice : List Int) (threshold sides : Int) (supply : Supply σ) :
    let batch := (explosionBatch dice threshold sides : Play σ (List Int)) supply
    (explodeEach dice threshold sides supply).draws = batch.draws ∧
      (explodeEach dice threshold sides supply).supply = batch.supply ∧
      (explodeEach dice threshold sides supply).ending =
        batch.ending >>= fun added => .ok (ascending (dice ++ added)) := by
  rw [explodeEach, rollChains_eq]
  exact Play.bind_of_quiet (fun added middle => ⟨[], rfl⟩) supply

/-- Dice that explode apart from each other make the same outcome as together. -/
theorem ascending_append_explosions (front back added others : List Int) :
    ascending (ascending (front ++ added) ++ ascending (back ++ others)) =
      ascending (front ++ back ++ (added ++ others)) := by
  apply ascending_eq_of_perm
  refine ((ascending_perm _).append (ascending_perm _)).trans ?_
  simp only [List.append_assoc]
  exact (List.perm_append_comm_assoc added back others).append_left front

/-- An explosion does what exploding the dice one at a time does, each with a chain of its own: it ends
alike, with the same dice, and draws the same values in the same order. So the explosion of two
outcomes together draws what the explosion of the one draws and then what the explosion of the other
draws from there, and it ends exactly if both end. -/
theorem explode_refines_chains (threshold sides : Int) (hthreshold : 2 ≤ threshold)
    (supply : Supply σ) :
    (∀ dice : List Int,
      let run := explode dice threshold sides supply
      let reference := explodeEach dice threshold sides supply
      run.ending = reference.ending ∧ run.draws = reference.draws ∧ run.supply = reference.supply) ∧
    ∀ front back : List Int,
      let first := explode front threshold sides supply
      let second := explode back threshold sides first.supply
      let whole := explode (front ++ back) threshold sides supply
      whole.draws = first.draws ++ second.draws ∧ whole.supply = second.supply ∧
        ∀ result, whole.ending = .ok result ↔
          ∃ a b, first.ending = .ok a ∧ second.ending = .ok b ∧ result = ascending (a ++ b) := by
  constructor
  · intro dice run reference
    obtain ⟨hdraws, hsupply, hending⟩ := explode_apply hthreshold dice sides supply
    obtain ⟨hdraws', hsupply', hending'⟩ := explodeEach_apply dice threshold sides supply
    exact ⟨hending.trans hending'.symm, hdraws.trans hdraws'.symm, hsupply.trans hsupply'.symm⟩
  · intro front back first second whole
    obtain ⟨hfirst, hmiddle, hfront⟩ := explode_apply hthreshold front sides supply
    obtain ⟨hsecond, hafter, hback⟩ := explode_apply hthreshold back sides first.supply
    obtain ⟨hwhole, hrest, hends⟩ := explode_apply hthreshold (front ++ back) sides supply
    obtain ⟨hdraws, hsupply, hending⟩ := explosionBatch_append front back threshold sides supply
    rw [← hmiddle] at hdraws hsupply hending
    refine ⟨?_, ?_, fun result => ?_⟩
    · rw [hwhole, hdraws, ← hfirst, ← hsecond]
    · rw [hrest, hsupply, ← hafter]
    · rw [hends, hending, hfront, hback]
      cases (explosionBatch front threshold sides supply).ending with
      | error failure => simp [bind, Except.bind]
      | ok added =>
        cases (explosionBatch back threshold sides first.supply).ending with
        | error failure => simp [bind, Except.bind]
        | ok others =>
          refine ⟨fun h => ⟨_, _, rfl, rfl, ?_⟩, fun h => ?_⟩
          · rw [ascending_append_explosions]
            exact (Except.ok.inj h).symm
          · obtain ⟨a, b, ha, hb, rfl⟩ := h
            cases ha
            cases hb
            rw [ascending_append_explosions]
            rfl

/-- The first of two sixes starts a chain of two dice, the second one a chain of one. -/
theorem explode_refines_chains_script :
    let supply : Supply Generator := ⟨.script [6, 3, 5, 1], 20⟩
    let first := explode [6, 2] 6 6 supply
    (2 : Int) ≤ 6 ∧
    (explodeEach [6, 2, 6] 6 6 supply).ending = .ok [2, 3, 5, 6, 6, 6] ∧
    (explode [6, 2, 6] 6 6 supply).ending = .ok [2, 3, 5, 6, 6, 6] ∧
    (explode [6, 2, 6] 6 6 supply).draws = first.draws ++ (explode [6] 6 6 first.supply).draws := by
  intro supply first
  have hreference : (explodeEach [6, 2, 6] 6 6 supply).ending = .ok [2, 3, 5, 6, 6, 6] := by cbv
  obtain ⟨hchains, hparts⟩ := explode_refines_chains 6 6 (by decide) supply
  exact ⟨by decide, hreference, (hchains [6, 2, 6]).1.trans hreference, (hparts [6, 2] [6]).1⟩

end Tabletop
