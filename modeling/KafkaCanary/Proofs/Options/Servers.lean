import KafkaCanary.Options.Basic
import KafkaCanary.Proofs.Text.CommaLists

/-!
# Servers to start with

The servers are given as a comma-separated list, which needs an entry. What counts of the list are
its entries in their order. Blanks around them and pieces of blanks between them change nothing, and
so a list that is written down again from its entries means the same.

## Main results

* `Options.bootstrapList_eq_ok_iff`: the servers are the entries, if there are any;
* `servers_of_options`: which lists have servers, what the servers look like, and that they are
  found in every spelling of their list.
-/

namespace KafkaCanary

namespace Options

/-- The servers are the entries of the list, if there are any. -/
theorem bootstrapList_eq_ok_iff {o : Options} {servers : List String} :
    o.bootstrapList = .ok servers ↔ servers ≠ [] ∧ servers = Text.entries o.bootstrapServers := by
  unfold bootstrapList
  by_cases hempty : Text.entries o.bootstrapServers = []
  · simp only [hempty, List.isEmpty_nil, if_true, reduceCtorEq, false_iff]
    exact fun ⟨hne, hservers⟩ => hne hservers
  · simp only [List.isEmpty_iff, hempty, if_false, Except.ok.injEq]
    constructor
    · rintro rfl
      exact ⟨hempty, rfl⟩
    · exact fun ⟨_, hservers⟩ => hservers.symm

theorem bootstrapList_eq_error_iff {o : Options} {fault : OptionsFault} :
    o.bootstrapList = .error fault ↔
      fault = .noServers ∧ Text.entries o.bootstrapServers = [] := by
  unfold bootstrapList
  by_cases hempty : Text.entries o.bootstrapServers = []
  · simp [hempty, eq_comm]
  · simp [hempty]

end Options

/-- What becomes of a list of servers. It is refused if all its pieces are blank. Otherwise the
servers are its entries in order: its pieces without the blanks at their ends, but for those of
which nothing is left. A server is not empty, has no comma in it, and neither begins nor ends with a
blank. The servers are found again if they are written down as a list, with commas only or with
blanks around them and blank pieces between them. -/
theorem servers_of_options (o : Options) :
    ((∃ fault, o.bootstrapList = .error fault) ↔
      ∀ piece ∈ o.bootstrapServers.toList.splitOn ',', ∀ c ∈ piece, Text.isBlank c) ∧
    (∀ fault, o.bootstrapList = .error fault → fault = .noServers) ∧
    ∀ servers, o.bootstrapList = .ok servers →
      servers ≠ [] ∧
      servers = (((o.bootstrapServers.toList.splitOn ',').map fun piece =>
        (piece.dropWhile Text.isBlank).rdropWhile Text.isBlank).filter (· ≠ [])).map
          String.ofList ∧
      (∀ server ∈ servers, Text.IsEntry server.toList) ∧
      (∀ o' : Options, o'.bootstrapServers = ",".intercalate servers →
        o'.bootstrapList = .ok servers) ∧
      ∀ (o' : Options) (pieces : List (List Char)),
        o'.bootstrapServers.toList = [','].intercalate pieces →
        Text.Spread pieces (servers.map String.toList) → o'.bootstrapList = .ok servers := by
  refine ⟨?_, fun fault h => (Options.bootstrapList_eq_error_iff.1 h).1, fun servers h => ?_⟩
  · simp only [Options.bootstrapList_eq_error_iff, exists_eq_left, Text.entries_eq_nil_iff]
    rfl
  obtain ⟨hne, hservers⟩ := Options.bootstrapList_eq_ok_iff.1 h
  have hentries : ∀ server ∈ servers, Text.IsEntry server.toList := by
    rw [hservers]
    exact fun server => Text.isEntry_of_mem_entries
  -- Every other spelling of the list has the same entries, so it gives the same servers.
  have hspread (o' : Options) (pieces : List (List Char))
      (hlist : o'.bootstrapServers.toList = [','].intercalate pieces)
      (hpieces : Text.Spread pieces (servers.map String.toList)) :
      o'.bootstrapList = .ok servers :=
    Options.bootstrapList_eq_ok_iff.2
      ⟨hne, (Text.entries_of_spread hlist hpieces hentries).symm⟩
  refine ⟨hne, ?_, hentries, fun o' hlist => ?_, hspread⟩
  · rw [hservers, Text.entries_eq_filter]
  · -- Commas only is the spelling without any blank.
    apply hspread o' (servers.map String.toList)
    · rw [hlist, String.toList_intercalate]
      rfl
    · exact .self _

/-- A server that is given twice, one with a blank inside, blanks of several kinds and pieces
without a server. The last list has none. -/
theorem servers_of_options_with_blanks :
    let o : Options :=
      ⟨"\u2003b1:9092,\t,b 2:9092 ,b1:9092,", "t", "c", "5", 1, 1, none, false, false⟩
    let servers := ["b1:9092", "b 2:9092", "b1:9092"]
    o.bootstrapList = .ok servers ∧
      { o with bootstrapServers := "b1:9092,b 2:9092,b1:9092" }.bootstrapList = .ok servers ∧
      { o with bootstrapServers := "\u3000,b1:9092,b 2:9092\n\u0085, b1:9092" }.bootstrapList =
        .ok servers ∧
      ∃ fault, { o with bootstrapServers := " ,\u2028" }.bootstrapList = .error fault := by
  intro o servers
  have hservers : o.bootstrapList = .ok servers :=
    Options.bootstrapList_eq_ok_iff.2 ⟨by simp [servers], by decide +kernel⟩
  obtain ⟨-, -, hstable⟩ := servers_of_options o
  obtain ⟨-, -, -, hjoined, hspread⟩ := hstable servers hservers
  refine ⟨hservers, hjoined _ (by decide +kernel), ?_, ?_⟩
  · -- A blank piece, an entry as it is, one with blanks behind it and one with a blank before it.
    let first := "b1:9092".toList
    let second := "b 2:9092".toList
    have hnone : Text.Blank [] := by decide
    have hpieces : Text.Spread [['\u3000'], [] ++ first ++ [], [] ++ second ++ ['\n', '\u0085'],
        [' '] ++ first ++ []] [first, second, first] :=
      .blank (by decide)
        (.entry hnone hnone (.entry hnone (by decide) (.entry (by decide) hnone .nil)))
    exact hspread _ _ (by decide +kernel) hpieces
  · obtain ⟨hfails, -⟩ := servers_of_options { o with bootstrapServers := " ,\u2028" }
    have hblank : ∀ piece ∈ " ,\u2028".toList.splitOn ',', Text.Blank piece := by decide +kernel
    exact hfails.2 hblank

end KafkaCanary
