import Intake.Proofs.Lookup
import Intake.Source.Render

/-!
# The namespace of a flow

A name is brought into the namespace of a flow by lower-casing it and putting the prefix of the flow
in front of it. What this leaves as it is are the names in lower case that have the prefix
(`withFlowPrefix_eq_self_iff`), and it gives no others, so that doing it again changes nothing. Each
of them is the prefix and the rest that `stripFlowPrefix` gives, even when the rest begins with the
prefix once more, so that the rest tells the names of a flow apart (`HasFlowPrefix.inj`).

A derived location is made of a base, the flow and this rest, which can be read off it as soon as
the base is known (`tableLocation_inj`). Slashes at the end of a base do not count. Tables of a
mapping that derive their locations from one base therefore never share one
(`Mapping.location_eq_iff_of_build`, `Mapping.eq_of_location_eq`).
-/

namespace Intake

variable {flow name base base' s t : String}

/-! ## Names -/

/-- The names of a flow are in lower case when the flow is. -/
theorem lower_withFlowPrefix (hflow : Text.lower flow = flow) (name : String) :
    Text.lower (withFlowPrefix name flow) = withFlowPrefix name flow := by
  rw [Text.lower, Text.lowerAfter_eq_self fun c => isLower_of_mem_withFlowPrefix name hflow,
    String.ofList_toList]

/-- Which names are in the namespace of a flow already. -/
theorem withFlowPrefix_eq_self_iff (hflow : Text.lower flow = flow) :
    withFlowPrefix name flow = name ↔ Text.lower name = name ∧ HasFlowPrefix flow name := by
  constructor
  · intro h
    have hlower := lower_withFlowPrefix hflow name
    have hprefix := withFlowPrefix_hasFlowPrefix name flow
    rw [h] at hlower hprefix
    exact ⟨hlower, hprefix⟩
  · rintro ⟨hlower, rest, rfl⟩
    exact withFlowPrefix_eq_iff.2 (.inl hlower)

theorem withFlowPrefix_withFlowPrefix (hflow : Text.lower flow = flow) (name : String) :
    withFlowPrefix (withFlowPrefix name flow) flow = withFlowPrefix name flow :=
  (withFlowPrefix_eq_self_iff hflow).2
    ⟨lower_withFlowPrefix hflow name, withFlowPrefix_hasFlowPrefix name flow⟩

/-- A name with the prefix is the prefix and the rest. -/
theorem HasFlowPrefix.eq_append (h : HasFlowPrefix flow name) :
    name = flow ++ "_" ++ stripFlowPrefix name flow := by
  obtain ⟨rest, rfl⟩ := h
  rw [stripFlowPrefix_eq]

/-- The rest tells names with the prefix apart. -/
theorem HasFlowPrefix.inj (hs : HasFlowPrefix flow s) (ht : HasFlowPrefix flow t) :
    stripFlowPrefix s flow = stripFlowPrefix t flow ↔ s = t := by
  refine ⟨fun h => ?_, fun h => h ▸ rfl⟩
  rw [hs.eq_append, ht.eq_append, h]

/-! ## Locations -/

/-- A number of slashes. -/
def slashes (n : Nat) : String := String.ofList (List.replicate n '/')

theorem trimSlashes_append_slashes (base : String) (n : Nat) :
    trimSlashes (base ++ slashes n) = trimSlashes base := by
  have hslashes : ∀ c ∈ List.replicate n '/', (c == '/') = true := fun c hc => by
    rw [List.eq_of_mem_replicate hc, beq_self_eq_true]
  rw [trimSlashes, slashes, String.toList_append, String.toList_ofList, List.reverse_append,
    List.reverse_replicate, List.dropWhile_append_of_pos hslashes, ← trimSlashes]

/-- The location of a table depends on the base without the slashes at its end. -/
theorem tableLocation_congr (h : trimSlashes base = trimSlashes base') (flow table : String) :
    tableLocation base flow table = tableLocation base' flow table := by
  rw [tableLocation, tableLocation, h]

/-- The name without the prefix can be read off a location when the base is known. -/
theorem tableLocation_inj : tableLocation base flow s = tableLocation base flow t ↔
    stripFlowPrefix s flow = stripFlowPrefix t flow := by
  rw [tableLocation, tableLocation, String.append_left_inj, String.append_right_inj]

/-- The namespace of a flow is stable, and below one base it has one location for each of its names.

Bringing a name into the namespace again changes nothing; a name in it is the prefix followed by the
name without the prefix; names with the same location are equal; and slashes at the end of the base
do not change the location of any table. -/
theorem withFlowPrefix_stable (hflow : Text.lower flow = flow) (a b base : String) :
    withFlowPrefix (withFlowPrefix a flow) flow = withFlowPrefix a flow ∧
    withFlowPrefix a flow = flow ++ "_" ++ stripFlowPrefix (withFlowPrefix a flow) flow ∧
    (tableLocation base flow (withFlowPrefix a flow) =
        tableLocation base flow (withFlowPrefix b flow) →
      withFlowPrefix a flow = withFlowPrefix b flow) ∧
    ∀ n table, tableLocation (base ++ slashes n) flow table = tableLocation base flow table := by
  have ha := withFlowPrefix_hasFlowPrefix a flow
  have hb := withFlowPrefix_hasFlowPrefix b flow
  refine ⟨withFlowPrefix_withFlowPrefix hflow a, ha.eq_append, fun h => ?_, fun n table => ?_⟩
  · exact (ha.inj hb).1 (tableLocation_inj.1 h)
  · exact tableLocation_congr (trimSlashes_append_slashes base n) flow table

/-- A name that has the prefix twice, in other case, and the same name without it. -/
theorem withFlowPrefix_stable_salesTwice :
    Text.lower "sales" = "sales" ∧
    withFlowPrefix (withFlowPrefix "Sales_SALES_Orders" "sales") "sales" = "sales_sales_orders" ∧
    tableLocation "s3://lake//" "sales" "sales_sales_orders" = "s3://lake/sales/sales_orders/" ∧
    tableLocation "s3://lake" "sales" (withFlowPrefix "Sales_SALES_Orders" "sales") ≠
      tableLocation "s3://lake" "sales" (withFlowPrefix "Orders" "sales") := by
  have hflow : Text.lower "sales" = "sales" := by decide +kernel
  have htwice : withFlowPrefix "Sales_SALES_Orders" "sales" = "sales_sales_orders" := by
    decide +kernel
  have honce : withFlowPrefix "Orders" "sales" = "sales_orders" := by decide +kernel
  obtain ⟨hstable, -, hapart, hslashes⟩ :=
    withFlowPrefix_stable hflow "Sales_SALES_Orders" "Orders" "s3://lake"
  refine ⟨hflow, hstable.trans htwice, (hslashes 2 _).trans (by decide +kernel), fun h => ?_⟩
  have hsame := hapart h
  rw [htwice, honce] at hsame
  exact absurd hsame (by decide)

/-! ## Locations in a mapping -/

namespace Table

/-- The base of the location of a representation. -/
def baseLocation (t : Table) : SourceKind → String
  | .batch => t.batchLocation
  | .datalake => t.datalakeLocation

/-- A table of which a representation stands where its name puts it. -/
def DerivesLocation (t : Table) (kind : SourceKind) : Prop :=
  (t.storage kind).location = tableLocation (t.baseLocation kind) t.flow (t.identifier kind)

theorem WellFormed.hasFlowPrefix_identifier {t : Table} (h : t.WellFormed flow)
    (kind : SourceKind) : HasFlowPrefix flow (t.identifier kind) := by
  cases kind with
  | batch => exact h.sourceTable
  | datalake => exact h.targetTable

end Table

namespace Declaration

/-- The setting that declares the location of a representation. -/
def locationSetting : SourceKind → String
  | .batch => "source_location"
  | .datalake => "target_location"

/-- A representation stands where its name puts it when the worksheet does not say where. -/
theorem derivesLocation_table {d : Declaration} {target : String} {config : Config} {t : Table}
    {kind : SourceKind} (h : d.table target flow config = .ok t)
    (hunset : d.text? (locationSetting kind) = none) : t.DerivesLocation kind := by
  obtain ⟨source, keys, style, columns, -, -, -, -, rfl⟩ := table_eq_ok_iff.1 h
  cases kind with
  | batch =>
    have hsource : d.text? "source_location" = none := hunset
    simp only [Table.DerivesLocation, Table.storage, complete, hsource, Table.baseLocation,
      Table.identifier]
  | datalake =>
    have htarget : d.text? "target_location" = none := hunset
    simp only [Table.DerivesLocation, Table.storage, complete, htarget, Table.baseLocation,
      Table.identifier]

end Declaration

namespace Mapping

variable {sheets : List Worksheet} {config : Config} {m : Mapping} {t t' : Table}
  {kind : SourceKind}

/-- Representations that stand where their names put them, below one base, are apart unless they
have the same name. -/
theorem location_eq_iff_of_build (h : build sheets flow config = .ok m) (ht : t ∈ m.tables)
    (ht' : t' ∈ m.tables) (hderives : t.DerivesLocation kind) (hderives' : t'.DerivesLocation kind)
    (hbase : trimSlashes (t.baseLocation kind) = trimSlashes (t'.baseLocation kind)) :
    (t.storage kind).location = (t'.storage kind).location ↔
      t.identifier kind = t'.identifier kind := by
  have hwell := wellFormed_of_build h ht
  have hwell' := wellFormed_of_build h ht'
  rw [hderives, hderives', hwell.flow_eq, hwell'.flow_eq, tableLocation_congr hbase,
    tableLocation_inj]
  exact (hwell.hasFlowPrefix_identifier kind).inj (hwell'.hasFlowPrefix_identifier kind)

/-- No two tables of a mapping have the same derived location. -/
theorem eq_of_location_eq (h : build sheets flow config = .ok m) (ht : t ∈ m.tables)
    (ht' : t' ∈ m.tables) (hderives : t.DerivesLocation .datalake)
    (hderives' : t'.DerivesLocation .datalake)
    (hbase : trimSlashes t.datalakeLocation = trimSlashes t'.datalakeLocation)
    (hlocation : t.targetLocation = t'.targetLocation) : t = t' := by
  have hname := (location_eq_iff_of_build h ht ht' hderives hderives' hbase).1 hlocation
  exact List.inj_on_of_nodup_map (consistent_of_build h).targetTables ht ht' hname

end Mapping

end Intake
