/-
Module: VoltStream.Proofs.AlertPaging
Purpose: When reading the alerts page by page gives every alert once.
Trusted boundary: none
Main exports: readAll_perm_iff, offline_alerts_break_paging
-/
import VoltStream.Backend.AlertListing
import VoltStream.Backend.OfflineDetection

namespace VoltStream.Backend

open Relational

/-- For every table, all filters and every limit: the pages give every selected alert
once and nothing else, whatever orders the queries choose, exactly if no alerts of one
timestamp stand on both sides of the start of a page.  They do where the number of newer
alerts is below the offset of that page, and the offset is below the number of those that
are no older. -/
theorem readAll_perm_iff (alerts : Alerts) (filters : AlertFilters) {limit : Nat}
    (positive : 0 < limit) :
    (∀ orders : Nat → PermittedOrder Alert.timestamp (alerts.selected filters),
        (readAll alerts filters limit orders).Perm (alerts.selected filters)) ↔
      ∀ number timestamp,
        ¬(newerCount Alert.timestamp (alerts.selected filters) timestamp < number * limit ∧
          number * limit < notOlderCount Alert.timestamp (alerts.selected filters) timestamp) := by
  simp only [readAll_eq_allPages]
  exact allPages_perm_iff (alerts.selected_nodup filters) positive
    (selected_length_le alerts filters positive)

/-- The alerts of iterations of the offline detector that find these batteries silent. -/
def alertsAfter (iterations : List (Timestamp × List BatteryId)) : Alerts :=
  iterations.foldl
    (fun alerts iteration =>
      AlertCall.runAll (deviceOfflineCalls .default iteration.1 iteration.2) alerts)
    Alerts.empty

/-- One battery goes silent, and five and ten seconds later two more each. -/
def threeIterations : List (Timestamp × List BatteryId) :=
  [(0, ["BAT-000001"]), (5000000, ["BAT-000002", "BAT-000003"]),
    (10000000, ["BAT-000004", "BAT-000005"])]

/-- In pages of two, those that went silent together are on one page. -/
theorem sample_readAll_perm :
    ((alertsAfter threeIterations).selected {}).length = 5 ∧
    ∀ orders : Nat → PermittedOrder Alert.timestamp ((alertsAfter threeIterations).selected {}),
      (readAll (alertsAfter threeIterations) {} 2 orders).Perm
        ((alertsAfter threeIterations).selected {}) := by
  have checked : ((alertsAfter threeIterations).selected {}).length = 5 ∧
      ∀ alert ∈ (alertsAfter threeIterations).selected {}, ∀ number < 3,
        ¬TieAcross Alert.timestamp ((alertsAfter threeIterations).selected {}) (number * 2)
          alert.timestamp := by
    decide +kernel
  obtain ⟨five, apart⟩ := checked
  refine ⟨five, (readAll_perm_iff _ _ Nat.two_pos).mpr fun number timestamp across => ?_⟩
  have onPage : number * 2 < 5 := five ▸ across.2.trans_le List.countP_le_length
  obtain ⟨alert, isAlert, rfl⟩ := exists_row_of_tieAcross Alert.timestamp across
  exact apart alert isAlert number (by omega) across

/-- The alerts of one iteration. -/
def silentAlerts (ids : List BatteryId) : Alerts := alertsAfter [(0, ids)]

/-- Two batteries that went silent together have alerts of one timestamp.  In pages of one,
a client may read the same alert twice and never the other. -/
theorem offline_alerts_break_paging :
    ¬∀ orders : Nat → PermittedOrder Alert.timestamp
        ((silentAlerts ["BAT-000001", "BAT-000002"]).selected {}),
      (readAll (silentAlerts ["BAT-000001", "BAT-000002"]) {} 1 orders).Perm
        ((silentAlerts ["BAT-000001", "BAT-000002"]).selected {}) := by
  intro complete
  have apart := (allPages_perm_iff (Alerts.selected_nodup ..) Nat.one_pos
    (selected_length_le _ _ Nat.one_pos)).mp complete
  exact apart 1 0 (by decide +kernel)

end VoltStream.Backend
