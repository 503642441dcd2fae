/-
  The role columns of the routes table.

  Roles are told apart in three places: where they are read off one file, where
  the roles of all files are put together, and where a cell of the table is
  filled.  All three go by the folded form, so they agree on what one role is.

  * `rolesOf_distinct`, `roleVocabulary_distinct`: the roles of a route, and those
    of all routes together, are distinct names.
  * `Tabulated`: the roles of a route and the columns that say yes in its row
    stand for each other, one for one.
  * `roles_tabulated`: so it is in every row, and every column says yes in some row.
-/
import SiteAudit.Proofs.Page.Roles
import SiteAudit.Report.Table

namespace SiteAudit.Report

open Text

variable {routes : List Route} {route : Route} {roles : List Text} {role column : Text}
  {sources : List Source}

/-! ## Roles of a route -/

/-- The roles of a text are distinct names, and there are none without authorization. -/
theorem access_roles (s : Text) : DistinctNames (Page.Access.ofText s).roles ∧
    ((Page.Access.ofText s).authorized = false → (Page.Access.ofText s).roles = []) := by
  rw [Page.Access.ofText]
  split
  · exact ⟨Page.Access.distinctRoles_distinct s, by simp⟩
  · exact ⟨.nil, fun _ => rfl⟩

theorem exists_source (h : route ∈ Route.ofSources sources) :
    ∃ source ∈ sources, route ∈ Route.ofSource source :=
  List.mem_flatMap.1 h

theorem access_of_mem_ofSource {source : Source} (h : route ∈ Route.ofSource source) :
    route.roles = (Page.Access.ofText source.text).roles ∧
      route.authorized = (Page.Access.ofText source.text).authorized := by
  obtain ⟨declaration, -, rfl⟩ := List.mem_map.1 h
  exact ⟨rfl, rfl⟩

theorem roles_distinct (h : route ∈ Route.ofSources sources) : DistinctNames route.roles := by
  obtain ⟨source, -, hroute⟩ := exists_source h
  rw [(access_of_mem_ofSource hroute).1]
  exact (access_roles source.text).1

theorem roles_eq_nil (h : route ∈ Route.ofSources sources) (hopen : route.authorized = false) :
    route.roles = [] := by
  obtain ⟨source, -, hroute⟩ := exists_source h
  obtain ⟨hroles, hauthorized⟩ := access_of_mem_ofSource hroute
  rw [hroles]
  exact (access_roles source.text).2 (hauthorized ▸ hopen)

/-! ## Roles of all routes -/

theorem roleVocabulary_distinct (routes : List Route) : DistinctNames (Route.roleVocabulary routes) :=
  (firstSpellings_distinct _).perm (sortByCase_perm _)

theorem exists_mem_roleVocabulary (h : route ∈ routes) (hrole : role ∈ route.roles) :
    ∃ column ∈ Route.roleVocabulary routes, sameName column role = true := by
  obtain ⟨column, hkept, hsame⟩ :=
    exists_mem_firstSpellings (List.mem_flatMap.2 ⟨route, h, hrole⟩)
  exact ⟨column, (sortByCase_perm _).mem_iff.2 hkept, hsame⟩

theorem exists_route_of_mem_roleVocabulary (h : column ∈ Route.roleVocabulary routes) :
    ∃ route ∈ routes, column ∈ route.roles :=
  List.mem_flatMap.1 ((firstSpellings_sublist _).subset ((sortByCase_perm _).mem_iff.1 h))

/-! ## The columns of a row -/

/-- The cells of a row in the columns of roles. -/
def roleCells (roles : List Text) (route : Route) : List Text :=
  ((routeCells roles route).drop 3).take roles.length

theorem roleCells_eq (roles : List Text) (route : Route) : roleCells roles route =
    roles.map fun role => if route.hasRole role then yesNo true else ['-'] := by
  simp [roleCells, routeCells]

theorem hasRole_iff : route.hasRole column = true ↔
    ∃ role ∈ route.roles, sameName column role = true := by
  simp [Route.hasRole]

/-- The roles of a route and the columns that say yes in its row stand for each
    other. -/
structure Tabulated (roles : List Text) (route : Route) : Prop where
  /-- A column says yes if it stands for a role of the route, and else has a dash. -/
  cell_eq : ∀ {i : ℕ} {column : Text}, roles[i]? = some column → (roleCells roles route)[i]? = some
    (if ∃ role ∈ route.roles, sameName column role = true then ['y', 'e', 's'] else ['-'])
  /-- Every role of the route has one column. -/
  one_column : ∀ role ∈ route.roles, ∃! i : ℕ, ∃ column, roles[i]? = some column ∧ sameName column role = true
  /-- No column stands for two roles of the route. -/
  one_role : ∀ column ∈ roles, ∀ a ∈ route.roles, ∀ b ∈ route.roles,
    sameName column a = true → sameName column b = true → a = b
  /-- As many columns say yes as the route has roles. -/
  count_yes : (roleCells roles route).count ['y', 'e', 's'] = route.roles.length

theorem existsUnique_column (hdistinct : DistinctNames roles)
    (h : ∃ column ∈ roles, sameName column role = true) :
    ∃! i : ℕ, ∃ column, roles[i]? = some column ∧ sameName column role = true := by
  obtain ⟨column, hmem, hsame⟩ := h
  obtain ⟨i, hi⟩ := List.mem_iff_getElem?.1 hmem
  refine ⟨i, ⟨column, hi, hsame⟩, ?_⟩
  rintro j ⟨other, hj, hother⟩
  have hi' : (roles.map fold)[i]? = some (fold role) := by simp [hi, sameName_iff.1 hsame]
  have hj' : (roles.map fold)[j]? = some (fold role) := by simp [hj, sameName_iff.1 hother]
  have hlt : j < (roles.map fold).length := (List.getElem?_eq_some_iff.1 hj').1
  exact (List.getElem?_inj hlt (distinctNames_iff.1 hdistinct)).1 (hj'.trans hi'.symm)

/-- The columns that stand for a role of the route are as many as its roles: by
    their folded forms they are the same. -/
theorem countP_hasRole (hcolumns : DistinctNames roles) (hroles : DistinctNames route.roles)
    (hall : ∀ role ∈ route.roles, ∃ column ∈ roles, sameName column role = true) :
    roles.countP (route.hasRole ·) = route.roles.length := by
  have hperm : ((roles.filter (route.hasRole ·)).map fold).Perm (route.roles.map fold) := by
    refine (List.perm_ext_iff_of_nodup ?_ (distinctNames_iff.1 hroles)).2 fun name => ?_
    · exact (distinctNames_iff.1 hcolumns).sublist (List.filter_sublist.map fold)
    · simp only [List.mem_map, List.mem_filter, hasRole_iff]
      constructor
      · rintro ⟨column, ⟨-, role, hrole, hsame⟩, rfl⟩
        exact ⟨role, hrole, (sameName_iff.1 hsame).symm⟩
      · rintro ⟨role, hrole, rfl⟩
        obtain ⟨column, hcolumn, hsame⟩ := hall role hrole
        exact ⟨column, ⟨hcolumn, role, hrole, hsame⟩, sameName_iff.1 hsame⟩
  rw [List.countP_eq_length_filter, ← List.length_map fold, hperm.length_eq, List.length_map]

theorem count_roleCells : (roleCells roles route).count (yesNo true) = roles.countP (route.hasRole ·) := by
  rw [roleCells_eq, List.count, List.countP_map]
  refine List.countP_congr fun column _ => ?_
  by_cases h : route.hasRole column <;> simp [h, yesNo]

theorem tabulated (hcolumns : DistinctNames roles) (hroles : DistinctNames route.roles)
    (hall : ∀ role ∈ route.roles, ∃ column ∈ roles, sameName column role = true) :
    Tabulated roles route where
  cell_eq {i column} hi := by
    rw [roleCells_eq, List.getElem?_map, hi, Option.map_some]
    simp only [hasRole_iff]
    rfl
  one_column role hrole := existsUnique_column hcolumns (hall role hrole)
  one_role column _ a ha b hb hca hcb :=
    hroles.inj ha hb ((sameName_iff.1 hca).symm.trans (sameName_iff.1 hcb))
  count_yes := count_roleCells.trans (countP_hasRole hcolumns hroles hall)

/-- **The role columns say of every route what its file says.**  The columns are
    distinct names; the roles of a route are distinct names, none without
    authorization, and stand one for one for the columns that say yes in its row;
    and no column is without a yes. -/
theorem roles_tabulated (sources : List Source) :
    DistinctNames (Route.roleVocabulary (Route.ofSources sources)) ∧
    (∀ route ∈ Route.ofSources sources, DistinctNames route.roles ∧
      (route.authorized = false → route.roles = []) ∧
      Tabulated (Route.roleVocabulary (Route.ofSources sources)) route) ∧
    ∀ i < (Route.roleVocabulary (Route.ofSources sources)).length, ∃ route ∈ Route.ofSources sources,
      (roleCells (Route.roleVocabulary (Route.ofSources sources)) route)[i]? = some ['y', 'e', 's'] := by
  have hcolumns := roleVocabulary_distinct (Route.ofSources sources)
  have htabulated {route : Route} (h : route ∈ Route.ofSources sources) :
      Tabulated (Route.roleVocabulary (Route.ofSources sources)) route :=
    tabulated hcolumns (roles_distinct h) fun _ hrole => exists_mem_roleVocabulary h hrole
  refine ⟨hcolumns, fun route h => ⟨roles_distinct h, roles_eq_nil h, htabulated h⟩, fun i hi => ?_⟩
  obtain ⟨route, hroute, hrole⟩ := exists_route_of_mem_roleVocabulary (List.getElem_mem hi)
  refine ⟨route, hroute, ?_⟩
  rw [(htabulated hroute).cell_eq (List.getElem?_eq_getElem hi), if_pos ⟨_, hrole, by simp [sameName]⟩]

/-- Two pages that write one role with a sharp s and with a pair of s. -/
def twoSpellings : List Source :=
  [⟨"a.razor".toList, "@page \"/a\" [Authorize(Roles=\"Straße\")]".toList⟩,
    ⟨"b.razor".toList, "@page \"/b\" [Authorize(Role='STRASSE')]".toList⟩]

/-- The role has one column, which says yes in both rows. -/
theorem roles_tabulated_two_spellings :
    (Route.roleVocabulary (Route.ofSources twoSpellings)).length = 1 ∧
    (Route.ofSources twoSpellings).map (·.roles.length) = [1, 1] ∧
    ∀ route ∈ Route.ofSources twoSpellings,
      Tabulated (Route.roleVocabulary (Route.ofSources twoSpellings)) route :=
  ⟨by decide +kernel, by decide +kernel, fun route h => ((roles_tabulated twoSpellings).2.1 route h).2.2⟩

end SiteAudit.Report
