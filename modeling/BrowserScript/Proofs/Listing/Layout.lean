/-
# BrowserScript.Proofs.Listing.Layout -- how lists are laid out

Whatever the format, a list is **a text for each item, one after the other in order**, with
something between any two and perhaps something around them all. Here each format is written
down once by itself, and what is written for a list is shown to be laid out so. What stands in
the text of an item is the matter of the kind of item.

In a table the columns decide on the spaces behind a cell. The cells here are of one line, which
makes the rows so.
-/
import Mathlib
import BrowserScript.Listing
import BrowserScript.Proofs.Value.JsonText

namespace BrowserScript

/-! ## Values as items -/

namespace Value

/-- The items after the first have a comma and a new line in front. -/
theorem jsonItems_eq_join (depth : Nat) (vs : List Value) :
    jsonItems depth vs =
      String.join (vs.map fun v => "," ++ (jsonBreak depth ++ toJsonAt depth v)) := by
  induction vs with
  | nil => rfl
  | cons v vs ih =>
      rw [jsonItems, ih, List.map_cons, String.join_cons]
      simp only [String.append_assoc]

/-- Behind the dash of an item at the left margin its text begins. -/
theorem yamlItems_eq_join (vs : List Value) :
    yamlItems "" 0 vs = String.join (vs.map fun v => "-" ++ yamlBehind false 0 v) := by
  induction vs with
  | nil => rfl
  | cons v vs ih =>
      have hmargin : margin 0 = "" := rfl
      rw [yamlItems, hmargin, ih, List.map_cons, String.join_cons, String.empty_append]

end Value

namespace Listing

open Value (jsonString)

variable {α : Type}

/-! ## Lists for programs -/

/-- Texts with something between any two of them. -/
theorem intercalate_cons (between text : String) (texts : List String) :
    String.intercalate between (text :: texts) =
      text ++ String.join (texts.map fun t => between ++ t) := by
  induction texts generalizing text with
  | nil => rw [String.intercalate_singleton, List.map_nil, String.join_nil, String.append_empty]
  | cons next texts ih =>
      rw [String.intercalate_cons_cons, ih, List.map_cons, String.join_cons, String.append_assoc,
        String.append_assoc]

/-- A character that stands neither in the texts nor between them. -/
theorem not_mem_intercalate {c : Char} {between : String} {texts : List String}
    (hbetween : c ∉ between.toList) (h : ∀ text ∈ texts, c ∉ text.toList) :
    c ∉ (String.intercalate between texts).toList := by
  cases texts with
  | nil => exact List.not_mem_nil
  | cons text texts =>
      obtain ⟨htext, htexts⟩ := List.forall_mem_cons.1 h
      rw [intercalate_cons, String.toList_append, String.toList_join, List.flatMap_map,
        List.mem_append, List.mem_flatMap, not_or]
      refine ⟨htext, ?_⟩
      rintro ⟨next, hnext, hmem⟩
      rw [String.toList_append, List.mem_append] at hmem
      exact hmem.elim hbetween (htexts next hnext)

theorem join_intersperse (between : String) (texts : List String) :
    String.join (texts.intersperse between) = String.intercalate between texts := by
  induction texts with
  | nil => rfl
  | cons text texts ih =>
      cases texts with
      | nil => rw [List.intersperse_singleton, String.join_cons, String.join_nil,
          String.append_empty, String.intercalate_singleton]
      | cons next texts =>
          rw [List.intersperse_cons_cons, String.join_cons, String.join_cons, ih,
            String.intercalate_cons_cons, String.append_assoc]

/-- A JSON list with these texts for its items. -/
def jsonList (texts : List String) : String :=
  if texts = [] then "[]\n" else "[\n" ++ String.intercalate ",\n" texts ++ "\n]\n"

/-- A YAML list with these texts for its items. -/
def yamlList (texts : List String) : String :=
  if texts = [] then "[]\n" else String.join texts

theorem render_json [Listed α] (items : List α) :
    render .json items =
      jsonList (items.map fun i => "  " ++ (Listed.value i).toJsonAt 1) := by
  cases items with
  | nil => rfl
  | cons item items =>
      have hparts : (fun v => "," ++ (Value.jsonBreak 1 ++ Value.toJsonAt 1 v)) =
          fun v => ",\n" ++ ("  " ++ Value.toJsonAt 1 v) := by
        funext v
        rw [← String.append_assoc, ← String.append_assoc]
        rfl
      rw [jsonList, List.map_cons, if_neg (List.cons_ne_nil _ _), intercalate_cons, render,
        List.map_cons, Value.toJson, Value.toJsonAt, Value.jsonItems_eq_join, hparts, List.map_map,
        List.map_map]
      simp [← String.toList_inj, Value.jsonBreak, Function.comp_def]

/-- **A JSON list tells the values of its items**, and how many there are. -/
theorem render_json_inj [Listed α] {items items' : List α} :
    render .json items = render .json items' ↔
      items.map Listed.value = items'.map Listed.value := by
  rw [render, render, String.append_left_inj, Value.toJson_inj, Value.list.injEq]

theorem render_yaml [Listed α] (items : List α) :
    render .yaml items =
      yamlList (items.map fun i => "-" ++ (Listed.value i).yamlBehind false 0) := by
  cases items with
  | nil => rfl
  | cons item items =>
      rw [yamlList, if_neg (List.map_eq_nil_iff.not.2 (List.cons_ne_nil _ _)), render,
        List.map_cons, Value.toYaml, Value.yamlItems_eq_join, ← List.map_cons, List.map_map]
      rfl

/-! ## Records in lists for programs -/

/-- A name that stands in a list as it is. -/
structure IsPlainName (name : String) : Prop where
  json : jsonString name = "\"" ++ name ++ "\""
  key : Value.keyText 2 name = name ++ ":"
  isSimple : Value.Yaml.isSimpleKey name = true

instance (name : String) : Decidable (IsPlainName name) :=
  decidable_of_iff (jsonString name = "\"" ++ name ++ "\"" ∧ Value.keyText 2 name = name ++ ":" ∧
      Value.Yaml.isSimpleKey name = true)
    ⟨fun h => ⟨h.1, h.2.1, h.2.2⟩, fun h => ⟨h.json, h.key, h.isSimple⟩⟩

/-- A record in a JSON list, with a line for each of its members, whose texts are given. -/
def jsonItem (members : List (String × String)) : String :=
  "  \x7b\n" ++ String.intercalate ",\n" (members.map fun m => "    \"" ++ m.1 ++ "\": " ++ m.2) ++
    "\n  \x7d"

/-- A record in a YAML list. What is given of a member stands behind the colon and ends a line. -/
def yamlItem (members : List (String × String)) : String :=
  "- " ++ String.intercalate "  " (members.map fun m => m.1 ++ ":" ++ m.2)

theorem jsonMembers_eq_join {ms : List (String × Value)} (h : ∀ m ∈ ms, IsPlainName m.1) :
    Value.jsonMembers 2 ms =
      String.join (ms.map fun m => ",\n" ++ ("    \"" ++ m.1 ++ "\": " ++ m.2.toJsonAt 2)) := by
  induction ms with
  | nil => rfl
  | cons m ms ih =>
      obtain ⟨hname, hnames⟩ := List.forall_mem_cons.1 h
      have hlayout : ∀ value rest : String,
          "," ++ Value.jsonBreak 2 ++ ("\"" ++ m.1 ++ "\"") ++ ": " ++ value ++ rest =
            ",\n" ++ ("    \"" ++ m.1 ++ "\": " ++ value) ++ rest := by
        intro value rest
        simp [← String.toList_inj, Value.jsonBreak]
      rw [Value.jsonMembers, ih hnames, hname.json, hlayout, List.map_cons, String.join_cons]

/-- A record has a line for each member in a JSON list. -/
theorem toJsonAt_record {m : String × Value} {ms : List (String × Value)}
    (h : ∀ n ∈ m :: ms, IsPlainName n.1) :
    "  " ++ (Value.record (m :: ms)).toJsonAt 1 =
      jsonItem ((m :: ms).map fun n => (n.1, n.2.toJsonAt 2)) := by
  obtain ⟨hname, hnames⟩ := List.forall_mem_cons.1 h
  have hlayout : ∀ value rest : String,
      "  " ++ ("\x7b" ++ Value.jsonBreak 2 ++ ("\"" ++ m.1 ++ "\"") ++ ": " ++ value ++ rest ++
          Value.jsonBreak 1 ++ "\x7d") =
        "  \x7b\n" ++ ("    \"" ++ m.1 ++ "\": " ++ value ++ rest) ++ "\n  \x7d" := by
    intro value rest
    simp [← String.toList_inj, Value.jsonBreak]
  rw [Value.toJsonAt, jsonMembers_eq_join hnames, hname.json, hlayout, jsonItem, List.map_cons,
    List.map_cons, intercalate_cons, List.map_map, List.map_map]
  rfl

theorem yamlMembers_eq_join {ms : List (String × Value)} (h : ∀ m ∈ ms, IsPlainName m.1) :
    Value.yamlMembers "  " 2 ms =
      String.join (ms.map fun m => "  " ++ (m.1 ++ ":" ++ m.2.yamlBehind true 2)) := by
  induction ms with
  | nil => rfl
  | cons m ms ih =>
      obtain ⟨hname, hnames⟩ := List.forall_mem_cons.1 h
      have hmargin : Value.margin 2 = "  " := by decide
      rw [Value.yamlMembers, hmargin, ih hnames, hname.key, hname.isSimple, List.map_cons,
        String.join_cons]
      simp only [String.append_assoc]

/-- A record has its members one below the other in a YAML list. -/
theorem yamlBehind_record {m : String × Value} {ms : List (String × Value)}
    (h : ∀ n ∈ m :: ms, IsPlainName n.1) :
    "-" ++ (Value.record (m :: ms)).yamlBehind false 0 =
      yamlItem ((m :: ms).map fun n => (n.1, n.2.yamlBehind true 2)) := by
  obtain ⟨hname, hnames⟩ := List.forall_mem_cons.1 h
  have hmargin : Value.margin 2 = "  " := by decide
  have hlayout : ∀ value rest : String,
      "-" ++ (" " ++ (m.1 ++ ":") ++ value ++ rest) = "- " ++ (m.1 ++ ":" ++ value ++ rest) := by
    intro value rest
    simp [← String.toList_inj]
  rw [Value.yamlBehind, List.isEmpty_cons, if_neg Bool.false_ne_true, if_neg Bool.false_ne_true,
    Value.yamlMembers, hmargin, yamlMembers_eq_join hnames, hname.key, hname.isSimple, hlayout,
    yamlItem, List.map_cons, List.map_cons, intercalate_cons, List.map_map, List.map_map]
  rfl

/-- A kind of item is listed as a record with these members, whose names are plain. -/
structure HasMembers (α : Type) [Listed α] (members : α → List (String × Value)) : Prop where
  value : ∀ item : α, Listed.value item = .record (members item)
  ne_nil : ∀ item : α, members item ≠ []
  names : ∀ item : α, ∀ m ∈ members item, IsPlainName m.1

section

variable [Listed α] {members : α → List (String × Value)}

/-- **In a JSON list each item has a line for each of its members.** -/
theorem render_json_members (h : HasMembers α members) (items : List α) :
    render .json items =
      jsonList (items.map fun i => jsonItem ((members i).map fun m => (m.1, m.2.toJsonAt 2))) := by
  rw [render_json, List.map_congr_left]
  intro i _
  obtain ⟨m, ms, hmembers⟩ := List.exists_cons_of_ne_nil (h.ne_nil i)
  rw [h.value, hmembers, toJsonAt_record (hmembers ▸ h.names i)]

/-- **In a YAML list each item has its members one below the other.** -/
theorem render_yaml_members (h : HasMembers α members) (items : List α) :
    render .yaml items =
      yamlList (items.map fun i => yamlItem ((members i).map fun m =>
        (m.1, m.2.yamlBehind true 2))) := by
  rw [render_yaml, List.map_congr_left]
  intro i _
  obtain ⟨m, ms, hmembers⟩ := List.exists_cons_of_ne_nil (h.ne_nil i)
  rw [h.value, hmembers, yamlBehind_record (hmembers ▸ h.names i)]

end

/-! ## Lists for people -/

/-! ### Tables -/

/-- A horizontal line: what it begins with, runs along, crosses the columns with and ends in. -/
def ruleText (left : String) (along : Char) (cross right : String) (ws : List Nat) : String :=
  left ++ String.intercalate cross (ws.map fun w => String.ofList (List.replicate (w + 2) along)) ++
    right ++ "\n"

theorem draw_rule (r : Table.Rule) (ws : List Nat) :
    r.draw ws ++ "\n" =
      ruleText (.singleton r.left) r.along (.singleton r.cross) (.singleton r.right) ws := rfl

/-- A row of cells, each with spaces behind it up to the width of its column. -/
def rowText (ws : List Nat) (cells : List String) : String :=
  "│ " ++ String.intercalate " ┆ " (List.zipWith
    (fun w cell => cell ++ String.ofList (List.replicate (w - Text.columns cell) ' ')) ws cells) ++
    " │\n"

/-- A table: a row of headers and a row for each item, with lines around them and between. -/
def tableText (ws : List Nat) (headers : List String) (rows : List (List String)) : String :=
  ruleText "┌" '─' "┬" "┐" ws ++ rowText ws headers ++ ruleText "╞" '═' "╪" "╡" ws ++
    String.intercalate (ruleText "├" '╌' "┼" "┤" ws) (rows.map (rowText ws)) ++
    ruleText "└" '─' "┴" "┘" ws

/-- A row of some cells, all of one line. -/
def IsLine (cells : List String) : Prop :=
  cells ≠ [] ∧ ∀ cell ∈ cells, '\n' ∉ cell.toList

theorem cellLines_of_line {cell : String} (h : '\n' ∉ cell.toList) :
    Table.cellLines cell = [cell] := by
  have hsplit : cell.toList.splitOn '\n' = [cell.toList] :=
    List.splitOnP_eq_singleton fun c hc => beq_false_of_ne fun heq => h (heq ▸ hc)
  rw [Table.cellLines, hsplit, List.map_singleton, String.ofList_toList]

theorem cellWidth_of_line {cell : String} (h : '\n' ∉ cell.toList) :
    Table.cellWidth cell = Text.columns cell := by
  rw [Table.cellWidth, cellLines_of_line h]
  exact Nat.zero_max _

theorem rowLines_of_line {ws : List Nat} {cells : List String} (h : IsLine cells) :
    (Table.rowLines ws cells).map (fun l => l ++ "\n") = [rowText ws cells] := by
  have hcells : cells.map Table.cellLines = cells.map fun cell => [cell] :=
    List.map_congr_left fun cell hcell => cellLines_of_line (h.2 cell hcell)
  -- the row is as high as its highest cell, and there is a cell
  have hheight : ((cells.map fun cell => [cell]).map List.length).foldl max 0 = 1 := by
    obtain ⟨cell, others, rfl⟩ := List.exists_cons_of_ne_nil h.1
    have hones : ∀ cells : List String,
        ((cells.map fun cell => [cell]).map List.length).foldl max 1 = 1 := by
      intro cells
      induction cells with
      | nil => rfl
      | cons cell cells ih => exact ih
    exact hones others
  have hparts : List.zipWith (fun w lines => Text.padTo w (lines.getD 0 "")) ws
      (cells.map fun cell => [cell]) = List.zipWith Text.padTo ws cells :=
    List.zipWith_map_right
  simp only [Table.rowLines, hcells, hheight, List.range_one, List.map_cons, List.map_nil, hparts]
  rw [String.append_assoc]
  rfl

/-- The rows of a table, with a line between any two. -/
theorem join_rows {ws : List Nat} {rows : List (List String)} (h : ∀ row ∈ rows, IsLine row)
    (rule : String) :
    String.join ((((rows.map (Table.rowLines ws)).intersperse [rule]).flatten).map
        fun l => l ++ "\n") =
      String.intercalate (rule ++ "\n") (rows.map (rowText ws)) := by
  induction rows with
  | nil => rfl
  | cons row rows ih =>
      obtain ⟨hrow, hrows⟩ := List.forall_mem_cons.1 h
      -- a rule stands in front of each row but the first
      cases rows with
      | nil => simp [rowLines_of_line hrow]
      | cons next rows =>
          have hrest := ih hrows
          rw [List.map_cons] at hrest
          rw [List.map_cons, List.map_cons, List.intersperse_cons_cons, List.flatten_cons,
            List.flatten_cons, List.map_append, List.map_append, rowLines_of_line hrow,
            String.join_append, String.join_append, hrest]
          simp [String.intercalate_cons_cons, String.append_assoc]

/-- **A table of rows of one line each** has a line for each of them. -/
theorem draw_of_lines {headers : List String} {rows : List (List String)}
    (hheaders : IsLine headers) (hrows : ∀ row ∈ rows, IsLine row) :
    Table.draw headers rows = tableText (Table.widths headers rows) headers rows := by
  rw [Table.draw]
  simp only [List.cons_append, List.map_cons, List.map_append, String.join_cons, String.join_append,
    rowLines_of_line hheaders, join_rows hrows, List.map_nil, draw_rule]
  simp only [String.join_nil, String.empty_append, String.append_empty, tableText,
    String.append_assoc]
  rfl

/-! ### Columns -/

/-- A column of a list for people: its header, and the cell that an item has in it. -/
structure Column (α : Type) where
  header : String
  cell : α → String

/-- A column is as wide as its widest cell, and not less wide than its header. -/
def Column.width (c : Column α) (items : List α) : Nat :=
  (items.map fun i => Text.columns (c.cell i)).foldl max (Text.columns c.header)

/-- A kind of item is listed in these columns, whose headers are of one line. -/
structure HasColumns (α : Type) [Listed α] (cols : List (Column α)) : Prop where
  headers : Listed.headers α = cols.map Column.header
  cells : ∀ item : α, Listed.cells item = cols.map fun c => c.cell item
  isLine : IsLine (cols.map Column.header)

/-- The table of some items in columns. -/
def table (cols : List (Column α)) (items : List α) : String :=
  tableText (cols.map fun c => c.width items) (cols.map Column.header)
    (items.map fun i => cols.map fun c => c.cell i)

variable {cols : List (Column α)} {items : List α}

/-- Each row makes the columns as wide as it needs them. -/
theorem foldl_widths (h : ∀ i ∈ items, ∀ c ∈ cols, '\n' ∉ (c.cell i).toList)
    (start : Column α → Nat) :
    (items.map fun i => cols.map fun c => c.cell i).foldl
        (fun ws row => List.zipWith max ws (row.map Table.cellWidth)) (cols.map start) =
      cols.map fun c => (items.map fun i => Text.columns (c.cell i)).foldl max (start c) := by
  induction items generalizing start with
  | nil => rfl
  | cons i items ih =>
      obtain ⟨hitem, hitems⟩ := List.forall_mem_cons.1 h
      have hrow : (cols.map fun c => c.cell i).map Table.cellWidth =
          cols.map fun c => Text.columns (c.cell i) := by
        rw [List.map_map]
        exact List.map_congr_left fun c hc => cellWidth_of_line (hitem c hc)
      rw [List.map_cons, List.foldl_cons, hrow, List.zipWith_map, List.zipWith_self, ih hitems]
      rfl

/-- **A table of one-line cells has a row for each item.** -/
theorem render_table [Listed α] (hcols : HasColumns α cols)
    (h : ∀ i ∈ items, ∀ c ∈ cols, '\n' ∉ (c.cell i).toList) :
    render .table items = if items = [] then "No items found.\n" else table cols items := by
  have hcells : items.map Listed.cells = items.map fun i => cols.map fun c => c.cell i :=
    List.map_congr_left fun i _ => hcols.cells i
  have hne : cols ≠ [] := fun hnil => hcols.isLine.1 (hnil ▸ rfl)
  have hrows : ∀ row ∈ items.map (fun i => cols.map fun c => c.cell i), IsLine row := by
    intro row hrow
    obtain ⟨i, hi, rfl⟩ := List.mem_map.1 hrow
    exact ⟨List.map_eq_nil_iff.not.2 hne, List.forall_mem_map.2 (h i hi)⟩
  have hheaders : (cols.map Column.header).map Table.cellWidth =
      cols.map fun c => Text.columns c.header := by
    rw [List.map_map]
    exact List.map_congr_left fun c hc =>
      cellWidth_of_line (hcols.isLine.2 c.header (List.mem_map_of_mem hc))
  rw [render, hcols.headers, hcells, draw_of_lines hcols.isLine hrows, Table.widths, hheaders,
    foldl_widths h]
  simp only [List.isEmpty_iff]
  rfl

/-- An item as a line for each column. -/
def plainText (cols : List (Column α)) (item : α) : String :=
  String.join (cols.map fun c => c.header ++ ": " ++ c.cell item ++ "\n")

/-- **A plain list has lines for each item**, with three dashes between any two. -/
theorem render_plain [Listed α] (hcols : HasColumns α cols) (items : List α) :
    render .plain items = String.intercalate "---\n" (items.map (plainText cols)) := by
  have hitem : (plainItem : α → String) = plainText cols := by
    funext item
    rw [plainItem, hcols.headers, hcols.cells, List.zipWith_map, List.zipWith_self]
    rfl
  rw [render, join_intersperse, hitem]

end Listing

end BrowserScript
