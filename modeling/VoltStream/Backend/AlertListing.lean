/-
Module: VoltStream.Backend.AlertListing
Purpose: The list of alerts as `GET /api/v1/alerts` reads it, filtered and page by page.
Trusted boundary: human-reviewed spec of `list_alerts` in `alert_service.py`; rows of one
  timestamp come in an order that each query chooses
Main exports: AlertFilters, AlertFilters.selects, Alerts.selected, listAlerts, readAll
-/
import VoltStream.Relational.Paging
import VoltStream.Backend.AlertStore

namespace VoltStream.Backend

open Relational

/-- The optional query parameters, which one may combine. -/
structure AlertFilters where
  severity : Option Severity := none
  batteryId : Option BatteryId := none
  alertType : Option AlertType := none
  resolved : Option Bool := none
deriving Repr, DecidableEq

/-- The `WHERE` clause: a filter that is not given selects everything. -/
def AlertFilters.selects (filters : AlertFilters) (alert : Alert) : Bool :=
  filters.severity.all (alert.severity == ·) &&
    filters.batteryId.all (alert.batteryId == ·) &&
    filters.alertType.all (alert.alertType == ·) &&
    filters.resolved.all (alert.resolved == ·)

/-- `base_query`: the alerts that the filters select. -/
def Alerts.selected (alerts : Alerts) (filters : AlertFilters) : List Alert :=
  alerts.rows.filter filters.selects

/-- `list_alerts`: this page, and how many alerts the filters select in total.  `order`
is the order that the query for the page chooses within `ORDER BY timestamp DESC`. -/
def listAlerts (alerts : Alerts) (filters : AlertFilters) (limit offset : Nat)
    (order : PermittedOrder Alert.timestamp (alerts.selected filters)) : List Alert × Nat :=
  ((order.1.drop offset).take limit, (alerts.selected filters).length)

/-- A client that reads page after page, from offset 0 up to the total that the first
response reports, and puts them together. -/
def readAll (alerts : Alerts) (filters : AlertFilters) (limit : Nat)
    (orders : Nat → PermittedOrder Alert.timestamp (alerts.selected filters)) : List Alert :=
  let total := (listAlerts alerts filters limit 0 (orders 0)).2
  (List.range (total / limit + 1)).flatMap fun number =>
    (listAlerts alerts filters limit (number * limit) (orders number)).1

/-- The primary key tells the selected alerts apart. -/
theorem Alerts.selected_nodup (alerts : Alerts) (filters : AlertFilters) :
    (alerts.selected filters).Nodup :=
  (List.Nodup.of_map _ alerts.table.primaryKey).filter _

theorem readAll_eq_allPages (alerts : Alerts) (filters : AlertFilters) (limit : Nat)
    (orders : Nat → PermittedOrder Alert.timestamp (alerts.selected filters)) :
    readAll alerts filters limit orders =
      allPages limit ((alerts.selected filters).length / limit + 1)
        fun number => (orders number).1 := rfl

/-- The last of the pages ends with the last of the alerts, or after it. -/
theorem selected_length_le (alerts : Alerts) (filters : AlertFilters) {limit : Nat}
    (positive : 0 < limit) :
    (alerts.selected filters).length ≤ ((alerts.selected filters).length / limit + 1) * limit :=
  (Nat.add_one_mul .. ▸ Nat.lt_div_mul_add positive).le

end VoltStream.Backend
