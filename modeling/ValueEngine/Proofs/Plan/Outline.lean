import ValueEngine.Proofs.Arena.Building
import ValueEngine.Proofs.Plan.Texts

/-!
# What the outline of a plan shows

The outline goes through the fragments from the root on, each at the depth at which it is met
first. It is a list of rows, and each row is a line of the text (`Plan.exists_rows`). What holds
of the rows that are added below some fragment is kept when more rows follow (`Listing.append`):
no fragment is headed twice, references stand below the heading, and a fragment that is headed
above the last level has its inputs headed.

The inputs of a fragment on the last level are left out, and a fragment that is met again is only
referred to. So when a fragment is met on the last level first, its inputs are missing wherever it
is met later, even close to the root. Nothing else is missing (`Plan.exists_outlined`), but this
happens (`Plan.unlisted_detour`).
-/

set_option autoImplicit false

namespace ValueEngine

open Relation

/-! ## Chains of links -/

namespace Layout

/-- Links lead down from one fragment to another one, so many of them. -/
inductive Descends (layout : Layout) (first : FragmentId) : Nat → FragmentId → Prop where
  | refl : Descends layout first 0 first
  | input {links : Nat} {fragment : Fragment} {id : FragmentId}
      (above : Descends layout first links fragment.id) (member : fragment ∈ layout.all)
      (consumed : id ∈ fragment.inputs) : Descends layout first (links + 1) id

namespace Descends

variable {layout : Layout} {first middle last : FragmentId} {above below links : Nat}

theorem trans (upper : layout.Descends first above middle)
    (lower : layout.Descends middle below last) : layout.Descends first (above + below) last := by
  induction lower with
  | refl => exact upper
  | input _ member consumed ih => exact ih.input member consumed

/-- A chain of links begins with shorter ones. -/
theorem exists_of_le (descends : layout.Descends first links last) (fewer : above ≤ links) :
    ∃ between, layout.Descends first above between := by
  induction descends with
  | refl =>
    cases Nat.le_zero.mp fewer
    exact ⟨first, .refl⟩
  | @input links _ _ upper member consumed ih =>
    rcases Nat.le_succ_iff.mp fewer with shorter | rfl
    · exact ih shorter
    · exact ⟨_, upper.input member consumed⟩

end Descends

/-- Links lead from the root down to every fragment. -/
theorem Sound.exists_descends {layout : Layout} {graph : Graph} (sound : layout.Sound graph)
    {fragment : Fragment} (member : fragment ∈ layout.fragments) :
    ∃ links, layout.Descends FragmentId.root links fragment.id := by
  have path := sound.reaches_root member
  clear member
  generalize fragment.id = id at path ⊢
  induction path using ReflTransGen.head_induction_on with
  | refl => exact ⟨0, .refl⟩
  | head feeds _ ih =>
    obtain ⟨links, above⟩ := ih
    obtain ⟨producer, producerMember, rfl, isRoot | ⟨consumer, consumerMember, rfl, consumed⟩⟩ :=
      sound.cases_of_feeds feeds
    · have linked := sound.linked producer (mem_all_of_mem producerMember) _ root_mem_all
      rw [isRoot] at feeds above
      have awaited := linked.mpr ((sound.feeds_iff (mem_all_of_mem producerMember)).mp feeds)
      exact ⟨links + 1, above.input root_mem_all awaited⟩
    · exact ⟨links + 1, above.input (mem_all_of_mem consumerMember) consumed⟩

end Layout

/-! ## Rows -/

/-- What a row of an outline shows. -/
inductive Entry where
  /-- The root. -/
  | root
  /-- A fragment in full. -/
  | heading (fragment : Fragment)
  /-- A reference to a fragment. -/
  | again (id : FragmentId)
  /-- The dots in place of inputs that are left out. -/
  | more

/-- A row of an outline. -/
structure Row where
  depth : Nat
  entry : Entry

/-- The line that shows a row. -/
def Row.line (plan : Plan) (row : Row) : Line where
  depth := row.depth
  text :=
    match row.entry with
    | .root => "root"
    | .heading fragment => plan.fragmentText fragment
    | .again id => FragmentId.reference id
    | .more => "..."

/-- The fragment that a row shows in full. -/
def Row.heading? (row : Row) : Option FragmentId :=
  match row.entry with
  | .heading fragment => some fragment.id
  | _ => none

/-- The fragments that some rows show in full. -/
def headings (rows : List Row) : List FragmentId := rows.filterMap Row.heading?

theorem headings_append (first second : List Row) :
    headings (first ++ second) = headings first ++ headings second :=
  List.filterMap_append

theorem mem_headings {rows : List Row} {id : FragmentId} :
    id ∈ headings rows ↔ ∃ depth fragment, ⟨depth, .heading fragment⟩ ∈ rows ∧ fragment.id = id := by
  refine List.mem_filterMap.trans ⟨?_, fun ⟨depth, fragment, listed, same⟩ =>
    ⟨_, listed, congrArg some same⟩⟩
  rintro ⟨⟨depth, entry⟩, listed, heading⟩
  cases entry with
  | heading fragment => exact ⟨depth, fragment, listed, Option.some.inj heading⟩
  | root => cases heading
  | again id => cases heading
  | more => cases heading

/-- What holds of the rows that are added to an outline which shows some fragments already. -/
structure Listing (layout : Layout) (shown : List FragmentId) (rows : List Row) : Prop where
  /-- No fragment is shown in full twice. -/
  headings_nodup : (headings rows).Nodup
  headings_fresh : ∀ id ∈ headings rows, id ∉ shown
  /-- The depth of a fragment is a number of links that lead to it, and at most that of the last
  level. -/
  reached : ∀ depth fragment, ⟨depth, .heading fragment⟩ ∈ rows →
    fragment ∈ layout.fragments ∧ depth ≤ Plan.outlineDepth ∧
      layout.Descends FragmentId.root depth fragment.id
  /-- Above the last level the inputs of a fragment are shown as well. -/
  followed : ∀ depth fragment, ⟨depth, .heading fragment⟩ ∈ rows → depth < Plan.outlineDepth →
    ∀ input ∈ fragment.inputs, input ∈ shown ∨ input ∈ headings rows
  /-- What is referred to stands above. -/
  preceded : ∀ before depth id after, rows = before ++ ⟨depth, .again id⟩ :: after →
    id ∈ shown ∨ id ∈ headings before
  /-- The root is shown once, at the top. -/
  rootless : ∀ depth, ⟨depth, .root⟩ ∉ rows

namespace Listing

variable {layout : Layout} {shown : List FragmentId} {first second rows : List Row}

theorem nil : Listing layout shown [] :=
  ⟨List.nodup_nil, nofun, nofun, nofun, fun before _ _ _ split => by simp at split, nofun⟩

/-- More rows may follow, which take the headings of the first ones as shown. -/
theorem append (before : Listing layout shown first)
    (after : Listing layout ((headings first).reverse ++ shown) second) :
    Listing layout shown (first ++ second) := by
  have fresh : ∀ id ∈ headings second, id ∉ headings first ∧ id ∉ shown := by
    intro id headed
    have apart := after.headings_fresh id headed
    rw [List.mem_append, List.mem_reverse, not_or] at apart
    exact apart
  refine ⟨?nodup, fun id headed => ?fresh, fun depth fragment listed => ?reached,
    fun depth fragment listed above input consumed => ?followed,
    fun rows depth id rest split => ?preceded, fun depth listed => ?rootless⟩
  case nodup =>
    rw [headings_append]
    refine List.nodup_append.mpr ⟨before.headings_nodup, after.headings_nodup, ?_⟩
    rintro id early _ late rfl
    exact (fresh id late).1 early
  case fresh =>
    rw [headings_append] at headed
    exact (List.mem_append.mp headed).elim (before.headings_fresh id) fun late => (fresh id late).2
  case reached =>
    exact (List.mem_append.mp listed).elim (before.reached depth fragment)
      (after.reached depth fragment)
  case followed =>
    rw [headings_append, List.mem_append]
    rcases List.mem_append.mp listed with early | late
    · exact (before.followed depth fragment early above input consumed).imp_right .inl
    · rcases after.followed depth fragment late above input consumed with known | headed
      · rw [List.mem_append, List.mem_reverse] at known
        exact known.elim (fun headed => .inr (.inl headed)) .inl
      · exact .inr (.inr headed)
  case preceded =>
    rcases List.append_eq_append_iff.mp split with ⟨more, rfl, cut⟩ | ⟨more, rfl, cut⟩
    · have known := after.preceded more depth id rest cut
      rw [List.mem_append, List.mem_reverse] at known
      rw [headings_append, List.mem_append]
      rcases known with (headed | known) | headed
      · exact .inr (.inl headed)
      · exact .inl known
      · exact .inr (.inr headed)
    · cases more with
      | nil =>
        have known := after.preceded [] depth id rest cut.symm
        rw [List.append_nil, List.mem_append, List.mem_reverse] at known
        exact known.elim (fun known => known.elim .inr .inl) nofun
      | cons row others =>
        obtain ⟨rfl, _⟩ := List.cons.inj cut
        exact before.preceded rows depth id others rfl
  case rootless =>
    exact (List.mem_append.mp listed).elim (before.rootless depth) (after.rootless depth)

/-- A reference to a fragment that is shown. -/
theorem again {depth : Nat} {id : FragmentId} (known : id ∈ shown) :
    Listing layout shown [⟨depth, .again id⟩] := by
  refine ⟨List.nodup_nil, nofun, fun _ _ listed => ?_, fun _ _ listed => ?_,
    fun before _ other after split => ?_, fun _ listed => ?_⟩
  · cases List.mem_singleton.mp listed
  · cases List.mem_singleton.mp listed
  · cases before with
    | nil =>
      cases split
      exact .inl known
    | cons => simp at split
  · cases List.mem_singleton.mp listed

/-- The dots for inputs that are left out. -/
theorem more {depth : Nat} : Listing layout shown [⟨depth, .more⟩] := by
  refine ⟨List.nodup_nil, nofun, fun _ _ listed => ?_, fun _ _ listed => ?_,
    fun before _ _ _ split => ?_, fun _ listed => ?_⟩
  · cases List.mem_singleton.mp listed
  · cases List.mem_singleton.mp listed
  · cases before <;> simp at split
  · cases List.mem_singleton.mp listed

/-- A fragment in full, with its inputs below it unless it is on the last level. -/
theorem heading {depth : Nat} {fragment : Fragment} (member : fragment ∈ layout.fragments)
    (within : depth ≤ Plan.outlineDepth)
    (reached : layout.Descends FragmentId.root depth fragment.id) (fresh : fragment.id ∉ shown)
    (below : Listing layout (fragment.id :: shown) rows)
    (followed : depth < Plan.outlineDepth → ∀ input ∈ fragment.inputs,
      input ∈ headings rows ∨ input ∈ fragment.id :: shown) :
    Listing layout shown (⟨depth, .heading fragment⟩ :: rows) := by
  have unknown : ∀ id ∈ headings rows, id ≠ fragment.id ∧ id ∉ shown := fun id headed =>
    not_or.mp fun known => below.headings_fresh id headed (List.mem_cons.mpr known)
  have headings_eq : headings (⟨depth, .heading fragment⟩ :: rows) =
    fragment.id :: headings rows := rfl
  have turn : ∀ {id : FragmentId} {more : List Row},
      id ∈ headings more ∨ id ∈ fragment.id :: shown →
        id ∈ shown ∨ id ∈ fragment.id :: headings more := by
    rintro id more (headed | known)
    · exact .inr (List.mem_cons_of_mem _ headed)
    · exact (List.mem_cons.mp known).elim (fun same => .inr (same ▸ List.mem_cons_self)) .inl
  refine ⟨?nodup, fun id headed => ?fresh, fun level other listed => ?reached,
    fun level other listed above input consumed => ?followed,
    fun before level id rest split => ?preceded, fun level listed => ?rootless⟩
  case nodup =>
    rw [headings_eq]
    exact List.nodup_cons.mpr ⟨fun headed => (unknown _ headed).1 rfl, below.headings_nodup⟩
  case fresh =>
    rw [headings_eq] at headed
    rcases List.mem_cons.mp headed with rfl | later
    · exact fresh
    · exact (unknown id later).2
  case reached =>
    rcases List.mem_cons.mp listed with same | later
    · cases same
      exact ⟨member, within, reached⟩
    · exact below.reached level other later
  case followed =>
    rw [headings_eq]
    rcases List.mem_cons.mp listed with same | later
    · cases same
      exact turn (followed above input consumed)
    · exact turn (below.followed level other later above input consumed).symm
  case preceded =>
    cases before with
    | nil => cases split
    | cons row others =>
      obtain ⟨rfl, later⟩ := List.cons.inj split
      exact turn (below.preceded others level id rest later).symm
  case rootless =>
    rcases List.mem_cons.mp listed with same | later
    · cases same
    · exact below.rootless level later

end Listing

/-! ## The rows of an outline -/

namespace Plan

variable {plan : Plan} {graph : Graph} {fragment : Fragment}

/-- Go on with one more input. -/
def addInput (plan : Plan) (levels depth : Nat) (sofar : List Line × List FragmentId)
    (input : FragmentId) : List Line × List FragmentId :=
  let (more, shown) := plan.outlineFrom levels depth sofar.2 input
  (sofar.1 ++ more, shown)

theorem outlineFrom_of_mem {levels depth : Nat} {shown : List FragmentId}
    (found : plan.layout.fragment? fragment.id = some fragment) (known : fragment.id ∈ shown) :
    plan.outlineFrom levels depth shown fragment.id =
      ([⟨depth, FragmentId.reference fragment.id⟩], shown) := by
  unfold outlineFrom
  rw [found]
  exact if_pos known

theorem outlineFrom_zero {depth : Nat} {shown : List FragmentId}
    (found : plan.layout.fragment? fragment.id = some fragment)
    (notRoot : fragment.id ≠ FragmentId.root) (fresh : fragment.id ∉ shown) :
    plan.outlineFrom 0 depth shown fragment.id =
      (⟨depth, plan.fragmentText fragment⟩ ::
        if fragment.inputs.toList.isEmpty then [] else [⟨depth + 1, "..."⟩],
        fragment.id :: shown) := by
  unfold outlineFrom
  rw [found]
  dsimp only
  rw [if_neg fresh, if_neg notRoot, if_neg notRoot]

theorem outlineFrom_succ {levels depth : Nat} {shown : List FragmentId}
    (found : plan.layout.fragment? fragment.id = some fragment)
    (notRoot : fragment.id ≠ FragmentId.root) (fresh : fragment.id ∉ shown) :
    plan.outlineFrom (levels + 1) depth shown fragment.id =
      fragment.inputs.toList.foldl (plan.addInput levels (depth + 1))
        ([⟨depth, plan.fragmentText fragment⟩], fragment.id :: shown) := by
  rw [outlineFrom, found]
  dsimp only
  rw [if_neg fresh, if_neg notRoot, if_neg notRoot]
  rfl

/-- The lines of the whole outline: the root, and below it what it waits for. -/
theorem outline_eq (sound : plan.layout.Sound graph) :
    plan.outline = (plan.layout.terminals.toList.foldl (plan.addInput 7 1) ([⟨0, "root"⟩], [])).1 := by
  have found : plan.layout.fragment? FragmentId.root = some plan.layout.root :=
    sound.fragment?_eq Layout.root_mem_all
  rw [outline, outlineDepth, outlineFrom, found]
  rfl

/-- What the lines below some fragments come from. -/
structure Shows (plan : Plan) (shown inputs : List FragmentId) (rows : List Row) : Prop where
  listing : Listing plan.layout shown rows
  inputs : ∀ input ∈ inputs, input ∈ headings rows ∨ input ∈ shown

/-- Inputs that come from rows one by one do so one after the other. -/
theorem exists_rows_inputs {levels depth : Nat}
    (each : ∀ shown input, input ∈ plan.layout.ids →
      plan.layout.Descends FragmentId.root depth input →
        ∃ rows, plan.outlineFrom levels depth shown input =
          (rows.map (Row.line plan), (headings rows).reverse ++ shown) ∧
            plan.Shows shown [input] rows)
    {inputs : List FragmentId} (known : ∀ input ∈ inputs, input ∈ plan.layout.ids)
    (reached : ∀ input ∈ inputs, plan.layout.Descends FragmentId.root depth input)
    (lines : List Line) (shown : List FragmentId) :
    ∃ rows, inputs.foldl (plan.addInput levels depth) (lines, shown) =
        (lines ++ rows.map (Row.line plan), (headings rows).reverse ++ shown) ∧
      plan.Shows shown inputs rows := by
  induction inputs generalizing lines shown with
  | nil => exact ⟨[], by simp [headings], .nil, nofun⟩
  | cons input rest ih =>
    obtain ⟨knownFirst, knownRest⟩ := List.forall_mem_cons.mp known
    obtain ⟨reachedFirst, reachedRest⟩ := List.forall_mem_cons.mp reached
    obtain ⟨first, first_eq, before⟩ := each shown input knownFirst reachedFirst
    obtain ⟨second, second_eq, after⟩ := ih knownRest reachedRest
      (lines ++ first.map (Row.line plan)) ((headings first).reverse ++ shown)
    refine ⟨first ++ second, ?_, before.listing.append after.listing, fun other listed => ?_⟩
    · rw [List.foldl_cons, addInput, first_eq, second_eq, List.map_append, headings_append,
        List.reverse_append, List.append_assoc, List.append_assoc]
    · rw [headings_append, List.mem_append]
      rcases List.mem_cons.mp listed with rfl | later
      · exact (before.inputs other List.mem_cons_self).imp_left .inl
      · rcases after.inputs other later with headed | early
        · exact .inl (.inr headed)
        · rw [List.mem_append, List.mem_reverse] at early
          exact early.imp_left .inl

/-- **The lines below a fragment come from rows.** The induction is on the levels that may
follow. -/
theorem exists_rows (sound : plan.layout.Sound graph) (levels : Nat) {depth : Nat}
    (room : depth + levels = outlineDepth) (shown : List FragmentId) (id : FragmentId)
    (known : id ∈ plan.layout.ids) (reached : plan.layout.Descends FragmentId.root depth id) :
    ∃ rows, plan.outlineFrom levels depth shown id =
        (rows.map (Row.line plan), (headings rows).reverse ++ shown) ∧
      plan.Shows shown [id] rows := by
  induction levels generalizing depth shown id with
  | zero =>
    obtain ⟨fragment, member, rfl⟩ := Layout.mem_ids_iff.mp known
    have found := sound.fragment?_eq (Layout.mem_all_of_mem member)
    by_cases met : fragment.id ∈ shown
    · refine ⟨[⟨depth, .again fragment.id⟩], outlineFrom_of_mem found met, .again met, ?_⟩
      exact List.forall_mem_singleton.mpr (.inr met)
    · have last : ¬ depth < outlineDepth := by omega
      have listing : ∀ rows, Listing plan.layout (fragment.id :: shown) rows →
          plan.Shows shown [fragment.id] (⟨depth, .heading fragment⟩ :: rows) := fun rows below =>
        ⟨.heading member (by omega) reached met below fun above => absurd above last,
          List.forall_mem_singleton.mpr (.inl List.mem_cons_self)⟩
      rw [outlineFrom_zero found (sound.id_ne_root member) met]
      split
      · exact ⟨[⟨depth, .heading fragment⟩], rfl, listing [] .nil⟩
      · refine ⟨[⟨depth, .heading fragment⟩, ⟨depth + 1, .more⟩], rfl, listing _ ?_⟩
        exact .more
  | succ levels ih =>
    obtain ⟨fragment, member, rfl⟩ := Layout.mem_ids_iff.mp known
    have inAll := Layout.mem_all_of_mem member
    have found := sound.fragment?_eq inAll
    by_cases met : fragment.id ∈ shown
    · refine ⟨[⟨depth, .again fragment.id⟩], outlineFrom_of_mem found met, .again met, ?_⟩
      exact List.forall_mem_singleton.mpr (.inr met)
    · obtain ⟨rows, rows_eq, below⟩ := exists_rows_inputs
        (fun shown input => ih (by omega) shown input)
        (fun input consumed => sound.inputs_mem fragment inAll input (SortedSet.mem_toList.mp consumed))
        (fun input consumed => reached.input inAll (SortedSet.mem_toList.mp consumed))
        [⟨depth, plan.fragmentText fragment⟩] (fragment.id :: shown)
      refine ⟨⟨depth, .heading fragment⟩ :: rows, ?_, .heading member (by omega) reached met
        below.listing fun _ => below.inputs, List.forall_mem_singleton.mpr (.inl List.mem_cons_self)⟩
      rw [outlineFrom_succ found (sound.id_ne_root member) met, rows_eq]
      simp [headings, Row.heading?, Row.line]

/-- The outline comes from rows below that of the root. -/
theorem exists_outline_eq (sound : plan.layout.Sound graph) :
    ∃ rows, plan.outline = ⟨0, "root"⟩ :: rows.map (Row.line plan) ∧
      plan.Shows [] plan.layout.terminals.toList rows := by
  have known : ∀ input ∈ plan.layout.terminals.toList, input ∈ plan.layout.ids :=
    sound.inputs_mem _ Layout.root_mem_all
  have reached : ∀ input ∈ plan.layout.terminals.toList,
      plan.layout.Descends FragmentId.root 1 input := fun _ awaited =>
    .input .refl Layout.root_mem_all awaited
  obtain ⟨rows, rows_eq, shows⟩ :=
    exists_rows_inputs (exists_rows sound 7 rfl) known reached [⟨0, "root"⟩] []
  refine ⟨rows, ?_, shows⟩
  rw [outline_eq sound, rows_eq]
  rfl

/-! ## What is shown -/

/-- The number of lines that show a fragment in full. -/
def fullLines (plan : Plan) (fragment : Fragment) : Nat :=
  plan.outline.countP fun line => decide (line.text = plan.fragmentText fragment)

/-- What the outline of a plan shows. -/
structure Outlined (plan : Plan) : Prop where
  /-- The lines of the text are those of the outline, and each ends with a line break. -/
  text_lines : plan.text.toList.splitOn '\n' =
    plan.outline.map (fun line => line.indented.toList) ++ [[]]
  /-- No fragment is shown in full twice. -/
  once : ∀ fragment ∈ plan.layout.fragments, plan.fullLines fragment ≤ 1
  /-- A reference stands below the full line of its fragment. -/
  referred : ∀ before line after, plan.outline = before ++ line :: after →
    ∀ id, line.text = FragmentId.reference id →
      ∃ fragment ∈ plan.layout.fragments, fragment.id = id ∧
        ∃ full ∈ before, full.text = plan.fragmentText fragment
  /-- The full line of a fragment stands so many levels below the root as links lead to it, and
  at most eight. -/
  depth : ∀ line ∈ plan.outline, ∀ fragment ∈ plan.layout.fragments,
    line.text = plan.fragmentText fragment →
      line.depth ≤ outlineDepth ∧ plan.layout.Descends FragmentId.root line.depth fragment.id
  /-- A fragment to which at most eight links lead is shown in full, unless they lead through a
  fragment that is shown on the last level. -/
  missed : ∀ fragment ∈ plan.layout.fragments, ∀ links ≤ outlineDepth,
    plan.layout.Descends FragmentId.root links fragment.id →
      plan.fullLines fragment = 1 ∨
        ∃ line ∈ plan.outline, line.depth = outlineDepth ∧ ∃ cut ∈ plan.layout.fragments,
          line.text = plan.fragmentText cut ∧ ∃ above below, above + below = links ∧ 0 < below ∧
            plan.layout.Descends FragmentId.root above cut.id ∧
              plan.layout.Descends cut.id below fragment.id
  /-- When no nine links follow each other, every fragment is shown in full. -/
  whole : (∀ id, ¬ plan.layout.Descends FragmentId.root (outlineDepth + 1) id) →
    ∀ fragment ∈ plan.layout.fragments, plan.fullLines fragment = 1

section Lines

variable {rows : List Row} {row : Row}

theorem newline_not_mem_line (row : Row) : '\n' ∉ (row.line plan).text.toList := by
  obtain ⟨depth, entry⟩ := row
  cases entry with
  | root => exact (by decide : '\n' ∉ "root".toList)
  | heading fragment => exact plan.newline_not_mem_fragmentText fragment
  | again id => exact newline_not_mem_append (FragmentId.newline_not_mem_text id) (by decide)
  | more => exact (by decide : '\n' ∉ "...".toList)

/-- The full line of a fragment is that of a row which shows it in full. -/
theorem text_eq_fragmentText_iff (sound : plan.layout.Sound graph)
    (known : ∀ depth other, row = ⟨depth, .heading other⟩ → other ∈ plan.layout.fragments)
    (member : fragment ∈ plan.layout.fragments) :
    (row.line plan).text = plan.fragmentText fragment ↔ row.heading? = some fragment.id := by
  obtain ⟨depth, entry⟩ := row
  have numbered := plan.head?_fragmentText fragment
  cases entry with
  | root => exact iff_of_false (root_ne_of_head? numbered) nofun
  | heading other =>
    refine ⟨fun same => ?_, fun same => ?_⟩
    · refine congrArg some ?_
      rw [← plan.ofText_fragmentText other, ← plan.ofText_fragmentText fragment]
      exact congrArg FragmentId.ofText same
    · have inAll := Layout.mem_all_of_mem (known depth other rfl)
      rw [sound.eq_of_id inAll (Layout.mem_all_of_mem member) (Option.some.inj same)]
      rfl
  | again id =>
    exact iff_of_false (fun same => plan.fragmentText_ne_reference fragment id same.symm) nofun
  | more => exact iff_of_false (dots_ne_of_head? numbered) nofun

/-- A line that refers to a fragment is that of a row which does so. -/
theorem eq_again_of_text_eq {id : FragmentId}
    (same : (row.line plan).text = FragmentId.reference id) : row = ⟨row.depth, .again id⟩ := by
  obtain ⟨depth, entry⟩ := row
  have numbered := FragmentId.head?_reference id
  cases entry with
  | root => exact absurd same (root_ne_of_head? numbered)
  | heading fragment => exact absurd same (plan.fragmentText_ne_reference fragment id)
  | again other =>
    have about : other = id := by
      rw [← FragmentId.ofText_reference other, ← FragmentId.ofText_reference id]
      exact congrArg FragmentId.ofText same
    rw [about]
  | more => exact absurd same (dots_ne_of_head? numbered)

variable (sound : plan.layout.Sound graph)
  (outline_eq : plan.outline = ⟨0, "root"⟩ :: rows.map (Row.line plan))
include sound outline_eq

/-- The full line of a fragment is that of its heading. -/
theorem exists_heading {shown : List FragmentId} (listing : Listing plan.layout shown rows)
    {line : Line} (listed : line ∈ plan.outline) (member : fragment ∈ plan.layout.fragments)
    (full : line.text = plan.fragmentText fragment) : ⟨line.depth, .heading fragment⟩ ∈ rows := by
  rw [outline_eq] at listed
  rcases List.mem_cons.mp listed with rfl | later
  · exact absurd full (root_ne_of_head? (plan.head?_fragmentText fragment))
  · obtain ⟨⟨depth, entry⟩, inside, rfl⟩ := List.mem_map.mp later
    have heading := (text_eq_fragmentText_iff sound
      (fun depth other same => (listing.reached depth other (same ▸ inside)).1) member).mp full
    cases entry with
    | heading other =>
      have otherMember := (listing.reached depth other inside).1
      rw [← sound.eq_of_id (Layout.mem_all_of_mem otherMember) (Layout.mem_all_of_mem member)
        (Option.some.inj heading)]
      exact inside
    | root => cases heading
    | again id => cases heading
    | more => cases heading

/-- The full lines of a fragment are counted by its headings. -/
theorem fullLines_eq_count {shown : List FragmentId} (listing : Listing plan.layout shown rows)
    (member : fragment ∈ plan.layout.fragments) :
    plan.fullLines fragment = (headings rows).count fragment.id := by
  let isFull : Line → Bool := fun line => decide (line.text = plan.fragmentText fragment)
  have top : ¬ isFull ⟨0, "root"⟩ = true :=
    decide_eq_true_iff.not.mpr (root_ne_of_head? (plan.head?_fragmentText fragment))
  have counted : plan.fullLines fragment = (rows.map (Row.line plan)).countP isFull := by
    rw [fullLines, outline_eq]
    exact List.countP_cons_of_neg top
  rw [counted, List.countP_map, headings, List.count_filterMap]
  refine List.countP_congr fun row inside => ?_
  rw [beq_iff_eq]
  exact decide_eq_true_iff.trans (text_eq_fragmentText_iff sound
    (fun depth other same => (listing.reached depth other (same ▸ inside)).1) member)

end Lines

/-- A fragment to which few links lead is shown, or one on the way is shown on the last level. The
induction is on the links. -/
theorem Shows.headed_or_cut (sound : plan.layout.Sound graph) {rows : List Row}
    (shows : plan.Shows [] plan.layout.terminals.toList rows) {links : Nat} {id : FragmentId}
    (descends : plan.layout.Descends FragmentId.root links id) (few : links ≤ outlineDepth) :
    id = FragmentId.root ∨ id ∈ headings rows ∨
      ∃ cut, ⟨outlineDepth, .heading cut⟩ ∈ rows ∧ ∃ above below, above + below = links ∧
        0 < below ∧ plan.layout.Descends FragmentId.root above cut.id ∧
          plan.layout.Descends cut.id below id := by
  induction descends with
  | refl => exact .inl rfl
  | @input links fragment id upper member consumed ih =>
    right
    rcases ih (by omega) with isRoot | headed | ⟨cut, listed, above, below, sum, _, upper, lower⟩
    · rw [sound.eq_of_id member Layout.root_mem_all isRoot] at consumed
      exact .inl ((shows.inputs id consumed).resolve_right List.not_mem_nil)
    · obtain ⟨depth, other, listed, same⟩ := mem_headings.mp headed
      obtain ⟨otherMember, within, _⟩ := shows.listing.reached depth other listed
      rw [sound.eq_of_id (Layout.mem_all_of_mem otherMember) member same] at listed
      rcases Nat.lt_or_eq_of_le within with inner | rfl
      · have headed := shows.listing.followed depth fragment listed inner id consumed
        exact .inl (headed.resolve_left List.not_mem_nil)
      · exact .inr ⟨fragment, listed, links, 1, rfl, Nat.one_pos, upper,
          .input .refl member consumed⟩
    · exact .inr ⟨cut, listed, above, below + 1, by omega, Nat.succ_pos below, upper,
        lower.input member consumed⟩

section Outlining

variable {rows : List Row} (sound : plan.layout.Sound graph)
  (outline_eq : plan.outline = ⟨0, "root"⟩ :: rows.map (Row.line plan))
  (shows : plan.Shows [] plan.layout.terminals.toList rows)
include sound outline_eq shows

/-- A full line stands at its depth. -/
theorem depth_of_full {line : Line} (listed : line ∈ plan.outline) {fragment : Fragment}
    (member : fragment ∈ plan.layout.fragments) (full : line.text = plan.fragmentText fragment) :
    line.depth ≤ outlineDepth ∧ plan.layout.Descends FragmentId.root line.depth fragment.id :=
  (shows.listing.reached _ fragment
    (exists_heading sound outline_eq shows.listing listed member full)).2

/-- A fragment to which few links lead has a full line, or one on the way has it on the last
level. -/
theorem full_or_cut {fragment : Fragment} (member : fragment ∈ plan.layout.fragments) {links : Nat}
    (few : links ≤ outlineDepth)
    (descends : plan.layout.Descends FragmentId.root links fragment.id) :
    plan.fullLines fragment = 1 ∨
      ∃ line ∈ plan.outline, line.depth = outlineDepth ∧ ∃ cut ∈ plan.layout.fragments,
        line.text = plan.fragmentText cut ∧ ∃ above below, above + below = links ∧ 0 < below ∧
          plan.layout.Descends FragmentId.root above cut.id ∧
            plan.layout.Descends cut.id below fragment.id := by
  have listing := shows.listing
  rcases shows.headed_or_cut sound descends few with isRoot | headed | ⟨cut, listed, chain⟩
  · exact absurd isRoot (sound.id_ne_root member)
  · left
    rw [fullLines_eq_count sound outline_eq listing member]
    exact List.count_eq_one_of_mem listing.headings_nodup headed
  · refine .inr ⟨Row.line plan ⟨outlineDepth, .heading cut⟩, ?_, rfl, cut,
      (listing.reached _ cut listed).1, rfl, chain⟩
    rw [outline_eq]
    exact List.mem_cons_of_mem _ (List.mem_map_of_mem listed)

omit sound in
/-- A reference has the full line of its fragment above it. -/
theorem exists_full_of_reference {before after : List Line} {line : Line}
    (split : plan.outline = before ++ line :: after) {id : FragmentId}
    (refers : line.text = FragmentId.reference id) :
    ∃ fragment ∈ plan.layout.fragments, fragment.id = id ∧
      ∃ full ∈ before, full.text = plan.fragmentText fragment := by
  have listing := shows.listing
  rw [outline_eq] at split
  cases before with
  | nil =>
    cases split
    exact absurd refers (root_ne_of_head? (FragmentId.head?_reference id))
  | cons top others =>
    obtain ⟨_, rest⟩ := List.cons.inj split
    obtain ⟨first, second, rfl, rfl, second_eq⟩ := List.map_eq_append_iff.mp rest
    obtain ⟨row, more, rfl, rfl, _⟩ := List.map_eq_cons_iff.mp second_eq
    rw [eq_again_of_text_eq refers] at listing
    obtain ⟨level, fragment, listed, same⟩ := mem_headings.mp
      ((listing.preceded first _ id more rfl).resolve_left List.not_mem_nil)
    exact ⟨fragment, (listing.reached level fragment (List.mem_append_left _ listed)).1, same,
      _, List.mem_cons_of_mem _ (List.mem_map_of_mem listed), rfl⟩

end Outlining

/-- The outline of a plan with a sound layout. -/
theorem outlined (sound : plan.layout.Sound graph) : Outlined plan := by
  obtain ⟨rows, outline_eq, shows⟩ := exists_outline_eq sound
  refine {
    text_lines := Line.splitOn_renderAll fun line listed => ?text
    once := fun fragment member => ?once
    referred := fun _ _ _ split _ refers =>
      exists_full_of_reference outline_eq shows split refers
    depth := fun _ listed _ member full => depth_of_full sound outline_eq shows listed member full
    missed := fun _ member _ few descends =>
      full_or_cut sound outline_eq shows member few descends
    whole := fun short fragment member => ?whole }
  case text =>
    rw [outline_eq] at listed
    rcases List.mem_cons.mp listed with rfl | later
    · exact (by decide : '\n' ∉ "root".toList)
    · obtain ⟨row, _, rfl⟩ := List.mem_map.mp later
      exact newline_not_mem_line row
  case once =>
    rw [fullLines_eq_count sound outline_eq shows.listing member]
    exact List.nodup_iff_count_le_one.mp shows.listing.headings_nodup _
  case whole =>
    obtain ⟨links, descends⟩ := sound.exists_descends member
    have few : links ≤ outlineDepth := by
      by_contra many
      obtain ⟨id, chain⟩ := descends.exists_of_le (Nat.lt_of_not_le many)
      exact short id chain
    rcases full_or_cut sound outline_eq shows member few descends with
      shown | ⟨line, listed, last, cut, cutMember, full, above, below, _, further, _, lower⟩
    · exact shown
    · have upper := (depth_of_full sound outline_eq shows listed cutMember full).2
      rw [last] at upper
      obtain ⟨id, chain⟩ := (upper.trans lower).exists_of_le
        (Nat.add_le_add_left further outlineDepth)
      exact absurd chain (short id)

/-- **The outline of a plan shows no fragment in full twice, refers to what stands above, and shows
all that few links lead to**, unless they lead through a fragment that is shown on the last
level. -/
theorem exists_outlined {graph : Graph} (acyclic : graph.Acyclic) (cost : Node → Cost)
    (sizing : Sizing) :
    ∃ plan, ofGraph graph cost sizing = .ok plan ∧ graph.Builds cost sizing plan ∧
      Outlined plan := by
  obtain ⟨plan, planned, built, settled⟩ := acyclic.exists_built cost sizing
  exact ⟨plan, planned, built, outlined settled.toSound⟩

/-! ## A fragment that is not shown -/

/-- A node feeds two others, which both feed two sinks: one by way of six more nodes, the other
at once. -/
def detour : Graph where
  configuration := "detour"
  nodes := List.replicate 11 default
  edges := [⟨0, 1⟩, ⟨0, 2⟩, ⟨1, 4⟩, ⟨2, 4⟩, ⟨4, 5⟩, ⟨5, 6⟩, ⟨6, 7⟩, ⟨7, 8⟩, ⟨8, 9⟩, ⟨9, 10⟩, ⟨1, 3⟩,
    ⟨2, 3⟩]
  edges_inRange := by decide
  edges_nodup := by decide

theorem detour_acyclic : detour.Acyclic := Graph.acyclic_of_rank id (by decide)

theorem exists_outlined_detour :
    detour.Acyclic ∧
      ∃ plan, ofGraph detour (fun _ => Cost.ofNat 1) { maxItems := 1 } = .ok plan ∧
        detour.Builds (fun _ => Cost.ofNat 1) { maxItems := 1 } plan ∧ Outlined plan :=
  ⟨detour_acyclic, exists_outlined detour_acyclic _ _⟩

/-- **A fragment to which three links lead need not be shown**: both that consume it are met on
the last level first. -/
theorem unlisted_detour :
    detour.Acyclic ∧
      ∃ plan, ofGraph detour (fun _ => Cost.ofNat 1) { maxItems := 1 } = .ok plan ∧
        ∃ fragment ∈ plan.layout.fragments,
          plan.layout.Descends FragmentId.root 3 fragment.id ∧ plan.fullLines fragment = 0 := by
  have order : detour.executionOrder = .ok [0, 1, 2, 4, 5, 6, 7, 8, 9, 10, 3] := by cbv
  let layout := detour.layout (fun _ => Cost.ofNat 1) { maxItems := 1 }
    [0, 1, 2, 4, 5, 6, 7, 8, 9, 10, 3]
  let plan : Plan := ⟨layout, layout.colouring ({ maxItems := 1 } : Sizing).maxConcurrency⟩
  refine ⟨detour_acyclic, plan, ofGraph_of_order order _ _, ?_⟩
  have awaited : 11 ∈ layout.terminals := by decide +kernel
  have sink : ∃ fragment ∈ layout.fragments, fragment.id = 11 ∧ 2 ∈ fragment.inputs := by
    decide +kernel
  have middle : ∃ fragment ∈ layout.fragments, fragment.id = 2 ∧ 1 ∈ fragment.inputs := by
    decide +kernel
  have source : ∃ fragment ∈ layout.fragments, fragment.id = 1 ∧ plan.fullLines fragment = 0 := by
    decide +kernel
  obtain ⟨consumer, consumerMember, consumerId, consumes⟩ := sink
  obtain ⟨between, betweenMember, betweenId, feeds⟩ := middle
  obtain ⟨fragment, member, same, unlisted⟩ := source
  refine ⟨fragment, member, ?_, unlisted⟩
  have first : layout.Descends FragmentId.root 1 consumer.id := by
    rw [consumerId]
    exact .input .refl Layout.root_mem_all awaited
  have second : layout.Descends FragmentId.root 2 between.id := by
    rw [betweenId]
    exact first.input (Layout.mem_all_of_mem consumerMember) consumes
  rw [same]
  exact second.input (Layout.mem_all_of_mem betweenMember) feeds

end Plan

end ValueEngine
