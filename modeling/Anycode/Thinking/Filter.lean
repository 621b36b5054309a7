import Anycode.Thinking.Live

/-!
# The filter contract

What one `filter_request` call promises, stated against the registry before the call, and
exactly when the call keeps it: the body, the cache and the passes always do, the returned
`u32` count as long as it can hold the number of removed items.
-/

namespace Anycode.Thinking
open Data

namespace ThinkingRegistry
variable {H : Type} [DecidableEq H] (fastHash : String → H)

/-- The contract of `filter_request`, against the registry `r` before the call. -/
structure FilterContract (r : ThinkingRegistry H) (body : Json) (out : Filtered H) : Prop where
  content : ContentFiltered (r.retained fastHash) body out.body
  removed : out.removed.toNat = removedItems (r.retained fastHash) body
  entries : ∀ hash info, out.registry.blocks.get hash = some info →
    info.session = out.registry.currentSession
  /-- No pass drops an entry that the request references. -/
  referenced : ∀ content ∈ requestContents body, r.live (fastHash content) = true →
    out.registry.live (fastHash content) = true

theorem filterRequest_content (r : ThinkingRegistry H) (body : Json) (now : Nat) :
    ContentFiltered (r.retained fastHash) body (r.filterRequest fastHash body now).body := by
  have filtered := retainContent_filtered (r.retained fastHash) body
  rwa [← filterRequest_body fastHash r body now] at filtered

theorem filterRequest_removed (r : ThinkingRegistry H) (body : Json) (now : Nat) :
    (r.filterRequest fastHash body now).removed = UInt32.ofNat (removedItems (r.retained fastHash) body) := by
  have count := retainContent_count (r.retained fastHash) body
  rwa [← filterRequest_body fastHash r body now] at count

theorem filterRequest_referenced {r : ThinkingRegistry H} {body : Json} {now : Nat} {content : String}
    (carried : content ∈ requestContents body) (live : r.live (fastHash content) = true) :
    (r.filterRequest fastHash body now).registry.live (fastHash content) = true := by
  rw [filterRequest_live, filterRequest_isSome fastHash (List.mem_map_of_mem carried)]
  exact live

theorem toNat_ofNat_eq_iff (n : Nat) : (UInt32.ofNat n).toNat = n ↔ n < UInt32.size := by
  rw [UInt32.toNat_ofNat']
  exact Nat.mod_eq_iff_lt (by decide)

/-- A call on any registry and body keeps the contract exactly when the number of removed
items fits the `u32` it is returned in. -/
theorem filterRequest_contract (r : ThinkingRegistry H) (body : Json) (now : Nat) :
    r.FilterContract fastHash body (r.filterRequest fastHash body now) ↔
      removedItems (r.retained fastHash) body < UInt32.size := by
  have count := congrArg UInt32.toNat (filterRequest_removed fastHash r body now)
  constructor
  · intro contract
    exact (toNat_ofNat_eq_iff _).mp (count.symm.trans contract.removed)
  · intro small
    refine ⟨filterRequest_content fastHash r body now, count.trans ((toNat_ofNat_eq_iff _).mpr small), ?_,
      fun content carried live => filterRequest_referenced fastHash carried live⟩
    intro hash info found
    rw [filterRequest_session]
    exact filterRequest_current fastHash found

omit [DecidableEq H] in
theorem removedItems_unknown {r : ThinkingRegistry H} {text : String} (unknown : r.live (fastHash text) = false)
    (signature : String) (known : List Json) (keeps : ∀ item ∈ known, r.retained fastHash item = true) (n : Nat) :
    removedItems (r.retained fastHash)
      (echoRequest (known ++ List.replicate n (thinkingBlock text signature))) = n := by
  have dropped : r.retained fastHash (thinkingBlock text signature) = false := by
    simp [retained, isThinkingItem_of_extract (extract_thinkingBlock text signature), unknown]
  have clean : known.countP (fun item => !r.retained fastHash item) = 0 :=
    List.countP_eq_zero.mpr (fun item member => by simp [keeps item member])
  rw [removedItems, contentItems_echoRequest, List.countP_append, clean, List.countP_replicate]
  simp [dropped]

/-- 2^32 unknown blocks in one message: all are removed, and the call returns 0. -/
theorem filterRequest_contract_flood :
    ¬ (new : ThinkingRegistry String).FilterContract id
      (echoRequest (List.replicate (UInt32.size) (thinkingBlock "a" "")))
      ((new : ThinkingRegistry String).filterRequest id
        (echoRequest (List.replicate (UInt32.size) (thinkingBlock "a" ""))) 0) := by
  intro contract
  have unknown : (new : ThinkingRegistry String).live (id "a") = false := rfl
  have total := removedItems_unknown id unknown "" [] (by simp) (UInt32.size)
  rw [List.nil_append] at total
  have count := contract.removed
  rw [filterRequest_removed, total] at count
  exact absurd ((toNat_ofNat_eq_iff _).mp count) (by decide)

end ThinkingRegistry

end Anycode.Thinking
