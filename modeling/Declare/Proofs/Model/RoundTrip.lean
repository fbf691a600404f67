import Declare.Proofs.Model.Built
import Declare.Proofs.Model.ConstraintText
import Declare.Proofs.Model.DomainText

/-!
# Models that read back

The written form of a model that was built by changes reads as that model, if its lines hold its
texts safely (`Model.LineSafe`). Reading goes through the four groups of lines: after the activities
come the bindings, the domains and the constraints, and each line of a group adds what it was
written for. No line of them holds anything to be tolerated, so this goes for either mode.
-/

namespace Declare

namespace Model

open Text Tolerant

/-- A text that a line holds whole: there is something of it, and no blanks around it. -/
structure Holds (s : String) : Prop where
  ne : s.toList ≠ []
  trimmed : trim s.toList = s.toList
  oneLine : '\n' ∉ s.toList

/-- An attribute that can stand in front of a domain, and is not taken for another kind of line. -/
structure SafeKey (attr : String) : Prop where
  noBracket : mayBeDomain attr.toList
  noColon : ¬[':', ' '] <:+: attr.toList
  noComment : attr.toList.head? ≠ some '#'
  noActivity : ¬"activity ".toList <+: attr.toList
  noBinding : ¬"bind ".toList <+: attr.toList

/-- The lines of a model hold its texts safely. -/
structure LineSafe (m : Model) : Prop where
  activities : ∀ a ∈ m.activities, Holds a.name
  bound : ∀ a ∈ m.activities, a.attributes ≠ [] → ¬[':', ' '] <:+: a.name.toList
  attributes : ∀ a ∈ m.activities, ∀ attr ∈ a.attributes, Holds attr ∧ ',' ∉ attr.toList
  keys : ∀ entry ∈ m.domains, SafeKey entry.1
  domains : ∀ entry ∈ m.domains, mayBeDomain entry.2.text.toList ∧ '\n' ∉ entry.2.text.toList
  constraints : ∀ c ∈ m.constraints, ∀ s ∈ c.activities ++ c.conditions, '\n' ∉ s.toList
  correlations : ∀ c ∈ m.constraints, c.template.isBinary = false → c.correlationCondition = ""

instance (s : String) : Decidable (Holds s) :=
  decidable_of_iff (s.toList ≠ [] ∧ trim s.toList = s.toList ∧ '\n' ∉ s.toList)
    ⟨fun ⟨ne, trimmed, oneLine⟩ => ⟨ne, trimmed, oneLine⟩,
      fun ⟨ne, trimmed, oneLine⟩ => ⟨ne, trimmed, oneLine⟩⟩

instance (attr : String) : Decidable (SafeKey attr) :=
  decidable_of_iff (mayBeDomain attr.toList ∧ ¬[':', ' '] <:+: attr.toList ∧
      attr.toList.head? ≠ some '#' ∧ ¬"activity ".toList <+: attr.toList ∧
      ¬"bind ".toList <+: attr.toList)
    ⟨fun ⟨a, b, c, d, e⟩ => ⟨a, b, c, d, e⟩, fun ⟨a, b, c, d, e⟩ => ⟨a, b, c, d, e⟩⟩

instance (m : Model) : Decidable m.LineSafe :=
  decidable_of_iff
    ((∀ a ∈ m.activities, Holds a.name) ∧
      (∀ a ∈ m.activities, a.attributes ≠ [] → ¬[':', ' '] <:+: a.name.toList) ∧
      (∀ a ∈ m.activities, ∀ attr ∈ a.attributes, Holds attr ∧ ',' ∉ attr.toList) ∧
      (∀ entry ∈ m.domains, SafeKey entry.1) ∧
      (∀ entry ∈ m.domains, mayBeDomain entry.2.text.toList ∧ '\n' ∉ entry.2.text.toList) ∧
      (∀ c ∈ m.constraints, ∀ s ∈ c.activities ++ c.conditions, '\n' ∉ s.toList) ∧
      ∀ c ∈ m.constraints, c.template.isBinary = false → c.correlationCondition = "")
    ⟨fun ⟨a, b, c, d, e, f, g⟩ => ⟨a, b, c, d, e, f, g⟩,
      fun ⟨a, b, c, d, e, f, g⟩ => ⟨a, b, c, d, e, f, g⟩⟩

/-- The lines of a model hold its texts safely, whatever the attributes with domains begin with. -/
structure Legible (m : Model) : Prop where
  activities : ∀ a ∈ m.activities, Holds a.name
  bound : ∀ a ∈ m.activities, a.attributes ≠ [] → ¬[':', ' '] <:+: a.name.toList
  attributes : ∀ a ∈ m.activities, ∀ attr ∈ a.attributes, Holds attr ∧ ',' ∉ attr.toList
  keys : ∀ entry ∈ m.domains, mayBeDomain entry.1.toList ∧ ¬[':', ' '] <:+: entry.1.toList
  domains : ∀ entry ∈ m.domains, mayBeDomain entry.2.text.toList ∧ '\n' ∉ entry.2.text.toList
  constraints : ∀ c ∈ m.constraints, ∀ s ∈ c.activities ++ c.conditions, '\n' ∉ s.toList
  correlations : ∀ c ∈ m.constraints, c.template.isBinary = false → c.correlationCondition = ""

theorem LineSafe.legible {m : Model} (h : m.LineSafe) : m.Legible where
  activities := h.activities
  bound := h.bound
  attributes := h.attributes
  keys := fun entry mem => ⟨(h.keys entry mem).noBracket, (h.keys entry mem).noColon⟩
  domains := h.domains
  constraints := h.constraints
  correlations := h.correlations

/-- Reading the lines in either mode changes the first model into the second one, and passes over
nothing. -/
def Reads (m : Model) (ls : List (List Char)) (m' : Model) : Prop :=
  ∀ mode number rest,
    m.readLines mode number (ls ++ rest) = m'.readLines mode (number + ls.length) rest

theorem Reads.nil (m : Model) : m.Reads [] m :=
  fun _ _ _ => rfl

theorem Reads.append {m m' m'' : Model} {ls ls' : List (List Char)} (h : m.Reads ls m')
    (h' : m'.Reads ls' m'') : m.Reads (ls ++ ls') m'' := by
  intro mode number rest
  rw [List.append_assoc, h, h', List.length_append, Nat.add_assoc]

theorem reads_singleton {m m' : Model} {line : List Char}
    (h : ∀ mode, m.readLine mode (trim line) = value m') : m.Reads [line] m' := by
  intro mode number rest
  rw [List.singleton_append, readLines, h]
  rfl

/-- Lines that are written for the elements of a list, one after the other. -/
theorem reads_flatMap {α : Type} {lines : α → List (List Char)} {xs : List α}
    (state : List α → List α → Model)
    (step : ∀ done x todo, xs = done ++ x :: todo →
      (state done (x :: todo)).Reads (lines x) (state (done ++ [x]) todo)) :
    (state [] xs).Reads (xs.flatMap lines) (state xs []) := by
  have run : ∀ done todo, xs = done ++ todo →
      (state done todo).Reads (todo.flatMap lines) (state xs []) := by
    intro done todo
    induction todo generalizing done with
    | nil =>
        intro all
        rw [List.append_nil] at all
        rw [all]
        exact Reads.nil _
    | cons x todo ih =>
        intro all
        rw [List.flatMap_cons]
        exact (step done x todo all).append (ih (done ++ [x]) (by rw [all, List.append_cons]))
  exact run [] xs rfl

theorem Holds.startsSolid {s : String} (h : Holds s) : StartsSolid s.toList :=
  startsSolid_of_trim h.trimmed h.ne

theorem Holds.endsSolid {s : String} (h : Holds s) : EndsSolid s.toList :=
  endsSolid_of_trim h.trimmed h.ne

theorem trim_activityLine {a : Activity} (h : Holds a.name) :
    trim (activityLine a).toList = "activity ".toList ++ a.name.toList := by
  rw [activityLine, String.toList_append]
  exact trim_of_solid (startsSolid_cons (by decide) _) (h.endsSolid.append _)

theorem readLine_activityLine {mode : ReadMode} {m : Model} {a : Activity} (h : Holds a.name)
    (new : a.name ∉ m.activities.map (·.name)) :
    m.readLine mode (trim (activityLine a).toList) =
      value { m with activities := m.activities ++ [{ name := a.name }] } := by
  have added : m.addActivity a.name =
      (true, { m with activities := m.activities ++ [{ name := a.name }] }) :=
    if_neg (mt hasActivity_iff.1 new)
  have ne : a.name.toList.isEmpty = false := by simpa using h.ne
  have line : m.readLine mode ("activity ".toList ++ a.name.toList) =
      m.readActivity mode (trim a.name.toList) := rfl
  rw [trim_activityLine h, line, h.trimmed, readActivity, ne, String.ofList_toList, added]
  rfl

theorem activity?_append {m : Model} {name : String} {done todo : List Activity} {a : Activity}
    (h : m.activities = done ++ a :: todo) (new : name ∉ done.map (·.name)) (here : a.name = name) :
    m.activity? name = some a := by
  have before : done.find? (·.name = name) = none := by
    rw [List.find?_eq_none]
    intro b mem same
    exact new (List.mem_map.2 ⟨b, mem, by simpa using same⟩)
  rw [activity?, h, List.find?_append, before, List.find?_cons_of_pos (by simpa using here)]
  rfl

theorem appendAttribute_append {name attr : String} {done : List Activity}
    (new : name ∉ done.map (·.name)) (a : Activity) (todo : List Activity) (here : a.name = name) :
    appendAttribute name attr (done ++ a :: todo) =
      done ++ { a with attributes := a.attributes ++ [attr] } :: todo := by
  induction done with
  | nil => exact if_pos here
  | cons b done ih =>
      rw [List.map_cons, List.mem_cons, not_or] at new
      rw [List.cons_append, appendAttribute, if_neg (Ne.symm new.1), ih new.2]
      rfl

/-- Attributes that an activity does not have yet are bound to it one after the other. -/
theorem bindAll_new {mode : ReadMode} {m : Model} {name : String} {done todo : List Activity}
    {before : List String}
    (new : name ∉ done.map (·.name)) {attrs : List String} (ne : ∀ attr ∈ attrs, attr.toList ≠ [])
    (nodup : (before ++ attrs).Nodup) :
    bindAll mode { m with activities := done ++ ⟨name, before⟩ :: todo } name
        (attrs.map String.toList) =
      value { m with activities := done ++ ⟨name, before ++ attrs⟩ :: todo } := by
  induction attrs generalizing before with
  | nil => rw [List.append_nil]; rfl
  | cons attr attrs ih =>
      obtain ⟨here, rest⟩ := List.forall_mem_cons.1 ne
      rw [List.append_cons] at nodup
      have unbound : attr ∉ before := by
        intro mem
        have disjoint := (List.nodup_append.1 (List.nodup_append.1 nodup).1).2.2
        exact disjoint attr mem attr List.mem_cons_self rfl
      have bound : bind { m with activities := done ++ ⟨name, before⟩ :: todo } name attr =
          .ok (true, { m with activities := done ++ ⟨name, before ++ [attr]⟩ :: todo }) := by
        rw [bind, activity?_append rfl new rfl]
        simp only [unbound, ↓reduceIte]
        rw [appendAttribute_append new _ _ rfl]
      have notEmpty : attr.toList.isEmpty = false := by simpa using here
      rw [List.map_cons, bindAll, notEmpty, String.ofList_toList, bound,
        List.append_cons before attr attrs, ← ih rest nodup]
      rfl

theorem endsSolid_intercalate {separator : List Char} {pieces : List (List Char)}
    (ne : pieces ≠ []) (h : ∀ piece ∈ pieces, EndsSolid piece) :
    EndsSolid (separator.intercalate pieces) := by
  induction pieces with
  | nil => exact absurd rfl ne
  | cons piece pieces ih =>
      obtain ⟨here, rest⟩ := List.forall_mem_cons.1 h
      cases pieces with
      | nil => simpa using here
      | cons next pieces =>
          rw [List.intercalate_cons_cons]
          exact (ih (List.cons_ne_nil _ _) rest).append _

theorem trim_bindingLine {a : Activity} (ne : a.attributes ≠ [])
    (attributes : ∀ attr ∈ a.attributes, Holds attr ∧ ',' ∉ attr.toList) :
    trim (bindingLine a).toList = "bind ".toList ++ (a.name.toList ++ ':' :: ' ' ::
      [',', ' '].intercalate (a.attributes.map String.toList)) := by
  have pieces : a.attributes.map String.toList ≠ [] := by simpa using ne
  have text : (bindingLine a).toList = "bind ".toList ++ (a.name.toList ++ ':' :: ' ' ::
      [',', ' '].intercalate (a.attributes.map String.toList)) := by
    rw [bindingLine, String.toList_append, String.toList_append, String.toList_append,
      String.toList_intercalate, List.append_assoc, List.append_assoc]
    rfl
  have ends : EndsSolid ([',', ' '].intercalate (a.attributes.map String.toList)) :=
    endsSolid_intercalate pieces
      (List.forall_mem_map.2 fun attr mem => (attributes attr mem).1.endsSolid)
  rw [text]
  exact trim_of_solid (startsSolid_cons (by decide) _)
    (((ends.append [':', ' ']).append _).append _)

theorem readLine_bindingLine (mode : ReadMode) (m : Model) {a : Activity} (h : Holds a.name)
    (noColon : ¬[':', ' '] <:+: a.name.toList) (ne : a.attributes ≠ [])
    (attributes : ∀ attr ∈ a.attributes, Holds attr ∧ ',' ∉ attr.toList) :
    m.readLine mode (trim (bindingLine a).toList) =
      m.bindAll mode a.name (a.attributes.map String.toList) := by
  have names := map_trim_fields_intercalate (by decide : ' ' ≠ ',') (by simpa using ne)
    (List.forall_mem_map.2 fun attr mem => (attributes attr mem).2)
    (List.forall_mem_map.2 fun attr mem => (attributes attr mem).1.trimmed)
  have line (binding : List Char) :
      m.readLine mode ("bind ".toList ++ binding) = m.readBinding mode binding := rfl
  rw [trim_bindingLine ne attributes, line, readBinding, cut?_append_pair (by decide) noColon]
  simp only [h.trimmed, String.ofList_toList, names]

theorem insertDomain_last {attr : String} {d : Domain} {entries : List (String × Domain)}
    (h : ∀ entry ∈ entries, entry.1 < attr) :
    insertDomain attr d entries = entries ++ [(attr, d)] := by
  induction entries with
  | nil => rfl
  | cons entry entries ih =>
      obtain ⟨here, rest⟩ := List.forall_mem_cons.1 h
      rw [insertDomain, if_neg (String.lt_asymm here), if_neg (String.ne_of_lt here).symm, ih rest]
      rfl

/-- A domain for a bound attribute that comes after all those with domains. -/
theorem setDomain_last {m : Model} {attr : String} {d : Domain} (bound : m.isBound attr)
    (readsBack : d.readsBack) (h : ∀ entry ∈ m.domains, entry.1 < attr) :
    m.setDomain attr d = .ok (none, { m with domains := m.domains ++ [(attr, d)] }) := by
  have first : m.domain? attr = none := by
    rw [domain?, Option.map_eq_none_iff, List.find?_eq_none]
    intro entry mem same
    exact String.ne_of_lt (h entry mem) (by simpa using same)
  rw [setDomain, bound, readsBack, first, insertDomain_last h]
  rfl

theorem read_trimEnd (cs : List Char) : Domain.read (trimEnd cs) = Domain.read cs := by
  simp only [Domain.read, trim_trimEnd]

private theorem trimEnd_text_ne_nil {d : Domain} (h : d.readsBack) :
    trimEnd d.text.toList ≠ [] := by
  intro empty
  have read := Domain.read_text h
  have nothing : Domain.read [] = .error .empty := rfl
  rw [← read_trimEnd, empty, nothing] at read
  cases read

private theorem mayBeDomain_append {cs cs' : List Char} :
    mayBeDomain (cs ++ cs') = (mayBeDomain cs && mayBeDomain cs') :=
  List.all_append

private theorem mayBeDomain_trimEnd {cs : List Char} (h : mayBeDomain cs) :
    mayBeDomain (trimEnd cs) := by
  have all := List.all_eq_true.1 h
  exact List.all_eq_true.2 fun c mem => all c ((List.rdropWhile_prefix isBlank cs).mem mem)

/-- The line of a domain is not taken for another kind of line. -/
private theorem readLine_eq_readDomain {attr : String} {rest : List Char} (ne : attr.toList ≠ [])
    (key : SafeKey attr) (noBracket : mayBeDomain rest) (mode : ReadMode) (m : Model) :
    m.readLine mode (attr.toList ++ ':' :: ' ' :: rest) = m.readDomain mode attr.toList rest := by
  have head : (attr.toList ++ ':' :: ' ' :: rest).head? = attr.toList.head? := by
    obtain ⟨c, cs, chars⟩ := List.exists_cons_of_ne_nil ne
    rw [chars]
    rfl
  have notActivity : stripPrefix? "activity ".toList (attr.toList ++ ':' :: ' ' :: rest) = none :=
    stripPrefix?_eq_none_iff.2 fun hp =>
      key.noActivity (prefix_of_prefix_append_cons (by decide) hp)
  have notBinding : stripPrefix? "bind ".toList (attr.toList ++ ':' :: ' ' :: rest) = none :=
    stripPrefix?_eq_none_iff.2 fun hp =>
      key.noBinding (prefix_of_prefix_append_cons (by decide) hp)
  have isDomain : mayBeDomain (attr.toList ++ ':' :: ' ' :: rest) = true := by
    have separated : mayBeDomain (':' :: ' ' :: rest) = mayBeDomain rest := rfl
    rw [mayBeDomain_append, key.noBracket, separated, noBracket]
    rfl
  have read : ¬((attr.toList ++ ':' :: ' ' :: rest).isEmpty || attr.toList.head? = some '#') := by
    simp [key.noComment]
  rw [readLine, head, if_neg read, notActivity, notBinding]
  simp only [readOther, isDomain, ↓reduceIte, cut?_append_pair (by decide) key.noColon]

theorem trim_domainLine {attr : String} {d : Domain} (h : Holds attr)
    (readsBack : d.readsBack) : trim (domainLine (attr, d)).toList =
      attr.toList ++ ':' :: ' ' :: trimEnd d.text.toList := by
  have text : (domainLine (attr, d)).toList = (attr.toList ++ [':', ' ']) ++ d.text.toList := by
    rw [domainLine, String.toList_append, String.toList_append]
    rfl
  have starts : StartsSolid ((attr.toList ++ [':', ' ']) ++ d.text.toList) :=
    (h.startsSolid.append _).append _
  rw [text, trim, trimStart_of_startsSolid starts, trimEnd_append (trimEnd_text_ne_nil readsBack),
    List.append_assoc]
  rfl

theorem readLine_domainLine {mode : ReadMode} {m : Model} {attr : String} {d : Domain}
    (h : Holds attr) (comma : ',' ∉ attr.toList) (key : SafeKey attr)
    (noBracket : mayBeDomain d.text.toList)
    (bound : m.isBound attr) (readsBack : d.readsBack)
    (last : ∀ entry ∈ m.domains, entry.1 < attr) :
    m.readLine mode (trim (domainLine (attr, d)).toList) =
      value { m with domains := m.domains ++ [(attr, d)] } := by
  have names : (fields ',' attr.toList).map trim = [attr.toList] := by
    rw [fields_of_not_mem comma, List.map_singleton, h.trimmed]
  have line := readLine_eq_readDomain h.ne key (mayBeDomain_trimEnd noBracket) mode m
  rw [trim_domainLine h readsBack, line, readDomain, read_trimEnd, Domain.read_text readsBack]
  simp only [names, setDomains, String.ofList_toList, setDomain_last bound readsBack last]
  rfl

/-- An activity before its attributes are bound. -/
def bare (a : Activity) : Activity := { name := a.name }

variable {m : Model}

private theorem name_not_mem_done (h : m.WellFormed) {done todo : List Activity} {a : Activity}
    (all : m.activities = done ++ a :: todo) : a.name ∉ done.map (·.name) := by
  have nodup := h.activities_nodup
  rw [all, List.map_append, List.map_cons] at nodup
  intro mem
  exact (List.nodup_append.1 nodup).2.2 _ mem _ List.mem_cons_self rfl

private theorem reads_activities (h : m.WellFormed) (safe : m.LineSafe) :
    Reads {} (m.activities.flatMap fun a => [(activityLine a).toList])
      { activities := m.activities.map bare } := by
  refine reads_flatMap (fun done _ => { activities := done.map bare }) ?_
  intro done a todo all
  have mem : a ∈ m.activities := by simp [all]
  have new : a.name ∉ (done.map bare).map (·.name) := by
    rw [List.map_map]
    exact name_not_mem_done h all
  rw [List.map_append]
  exact reads_singleton fun _ =>
    readLine_activityLine (m := { activities := done.map bare }) (safe.activities a mem) new

/-- The lines that bind the attributes of an activity: none if it has no attributes. -/
private def bindingLines (a : Activity) : List (List Char) :=
  if a.attributes.isEmpty then [] else [(bindingLine a).toList]

private theorem reads_bindings (h : m.WellFormed) (safe : m.LineSafe) :
    Reads { activities := m.activities.map bare } (m.activities.flatMap bindingLines)
      { activities := m.activities } := by
  suffices run : Reads { activities := [] ++ m.activities.map bare }
      (m.activities.flatMap bindingLines) { activities := m.activities ++ [].map bare } by
    simpa using run
  refine reads_flatMap (fun done todo => { activities := done ++ todo.map bare }) ?_
  intro done a todo all
  have mem : a ∈ m.activities := by simp [all]
  by_cases none : a.attributes = []
  · have same : bare a = a := by rw [bare, ← none]
    rw [List.map_cons, bindingLines, none, same, List.append_cons]
    exact Reads.nil _
  · have attributes := safe.attributes a mem
    have line (mode : ReadMode) : readLine mode { activities := done ++ bare a :: todo.map bare }
        (trim (bindingLine a).toList) =
          value { activities := done ++ ⟨a.name, a.attributes⟩ :: todo.map bare } := by
      rw [readLine_bindingLine _ _ (safe.activities a mem) (safe.bound a mem none) none attributes]
      exact bindAll_new (m := {}) (name_not_mem_done h all)
        (fun attr bound => (attributes attr bound).1.ne) (h.attributes_nodup a mem)
    have some : a.attributes.isEmpty = false := by simpa using none
    rw [List.map_cons, bindingLines, some, List.append_assoc]
    exact reads_singleton line

private theorem reads_domains (h : m.WellFormed) (safe : m.LineSafe) :
    Reads { activities := m.activities }
      (m.domains.flatMap fun entry => [(domainLine entry).toList])
      { activities := m.activities, domains := m.domains } := by
  refine reads_flatMap (fun done _ => { activities := m.activities, domains := done }) ?_
  intro done entry todo all
  have mem : entry ∈ m.domains := by simp [all]
  obtain ⟨a, declared, bound⟩ := isBound_iff.1 (h.domains_bound entry mem)
  obtain ⟨holds, comma⟩ := safe.attributes a declared entry.1 bound
  have last : ∀ e ∈ done, e.1 < entry.1 := by
    have sorted := h.domains_sorted
    rw [all, List.map_append, List.map_cons] at sorted
    intro e before
    exact (List.pairwise_append.1 sorted).2.2 _ (List.mem_map_of_mem before) _ List.mem_cons_self
  exact reads_singleton fun _ =>
    readLine_domainLine (m := { activities := m.activities, domains := done })
      holds comma (safe.keys entry mem) (safe.domains entry mem).1 (h.domains_bound entry mem)
      (h.domains_readBack entry mem) last

private theorem reads_constraints (h : m.WellFormed) (safe : m.LineSafe) :
    Reads { activities := m.activities, domains := m.domains }
      (m.constraints.flatMap fun c => [c.text.toList]) m := by
  refine reads_flatMap (fun done _ => { m with constraints := done }) ?_
  intro done c todo all
  have mem : c ∈ m.constraints := by simp [all]
  exact reads_singleton fun _ =>
    Constraint.readLine_text (m := { m with constraints := done })
      (h.constraints_sound c mem) (h.constraints_declared c mem) (safe.correlations c mem)

private theorem toList_textLines (m : Model) : m.textLines.map String.toList =
    (m.activities.flatMap fun a => [(activityLine a).toList]) ++
      m.activities.flatMap bindingLines ++
      (m.domains.flatMap fun entry => [(domainLine entry).toList]) ++
      m.constraints.flatMap fun c => [c.text.toList] := by
  have bindings (as : List Activity) :
      ((as.filter (!·.attributes.isEmpty)).map bindingLine).map String.toList =
        as.flatMap bindingLines := by
    induction as with
    | nil => rfl
    | cons a as ih =>
        cases none : a.attributes.isEmpty <;> simp [bindingLines, none, ← ih]
  simp only [textLines, List.map_append, bindings, List.map_map, ← List.map_eq_flatMap]
  rfl

example : textLines
    { activities := [⟨"Order", ["amount"]⟩, ⟨"Pay", []⟩]
      domains := [("amount", .floatRange 0.0 100.0)]
      constraints := [.binary .response "Order" "Pay"] } =
    ["activity Order", "activity Pay", "bind Order: amount",
      "amount: float between 0.0 and 100.0", "Response[Order, Pay] | | |"] := by decide +kernel

private theorem oneLine_constraint {c : Constraint}
    (h : ∀ s ∈ c.activities ++ c.conditions, '\n' ∉ s.toList) : '\n' ∉ c.text.toList := by
  obtain ⟨activities, conditions⟩ := List.forall_mem_append.1 h
  have name : '\n' ∉ c.template.name.toList := c.template.not_mem_name _ (by decide)
  have digits : '\n' ∉ c.cardinalityText := by
    intro digit
    cases Constraint.isDigit_of_mem_cardinalityText _ digit
  have joined : '\n' ∉ [',', ' '].intercalate (c.activities.map String.toList) :=
    not_mem_intercalate (by decide) (List.forall_mem_map.2 activities)
  have written : '\n' ∉ c.conditionsText := by
    simp only [Constraint.conditions, List.forall_mem_cons] at conditions
    rw [Constraint.conditionsText]
    split <;> simp [conditions]
  simp [Constraint.toList_text, name, digits, joined, written]

theorem oneLine_textLines (h : m.WellFormed) (legible : m.Legible) {line : String}
    (mem : line ∈ m.textLines) : line.toList ≠ [] ∧ '\n' ∉ line.toList := by
  simp only [textLines, List.mem_append, List.mem_map, List.mem_filter] at mem
  rcases mem with ((⟨a, mem, rfl⟩ | ⟨a, ⟨mem, -⟩, rfl⟩) | ⟨entry, mem, rfl⟩) | ⟨c, mem, rfl⟩
  · have name := (legible.activities a mem).oneLine
    simp [activityLine, name]
  · have name := (legible.activities a mem).oneLine
    have joined : '\n' ∉ [',', ' '].intercalate (a.attributes.map String.toList) :=
      not_mem_intercalate (by decide)
        (List.forall_mem_map.2 fun attr bound => (legible.attributes a mem attr bound).1.oneLine)
    simp [bindingLine, name, joined]
  · obtain ⟨a, declared, bound⟩ := isBound_iff.1 (h.domains_bound entry mem)
    have name := (legible.attributes a declared entry.1 bound).1.oneLine
    simp [domainLine, name, (legible.domains entry mem).2]
  · refine ⟨?_, oneLine_constraint (legible.constraints c mem)⟩
    simp [Constraint.toList_text]

/-- The lines of a text are those that were written. -/
theorem lines_text (h : m.WellFormed) (legible : m.Legible) :
    lines m.text.toList = m.textLines.map String.toList := by
  rw [text, String.toList_intercalate]
  exact lines_intercalate (List.forall_mem_map.2 fun _ mem => (oneLine_textLines h legible mem).1)
    (List.forall_mem_map.2 fun _ mem => (oneLine_textLines h legible mem).2)

/-- The text of a well-formed model whose texts are safe is read without a warning. -/
theorem readText_text (h : m.WellFormed) (safe : m.LineSafe) (mode : ReadMode) :
    readText mode m.text = value m := by
  have read := (((reads_activities h safe).append (reads_bindings h safe)).append
    (reads_domains h safe)).append (reads_constraints h safe) mode 1 []
  rw [List.append_nil, ← toList_textLines, ← lines_text h safe.legible] at read
  exact read

/-- The text of a model that was built by changes reads as that model, in strict and in lenient
mode. -/
theorem read_text_build (changes : List Change) (safe : (build changes).LineSafe)
    (mode : ReadMode) :
    read mode (build changes).text = .ok (build changes) := by
  rw [read, readText_text (wellFormed_build changes) safe]
  rfl

/-- Orders of up to 100 that are paid. -/
def orderChanges : List Change :=
  [.addActivity "Order", .addActivity "Pay", .bind "Order" "amount", .bind "Pay" "amount",
   .setDomain "amount" (.floatRange 0.0 100.0),
   .addConstraint ((Constraint.binary .response "Order" "Pay").withConditions "A.amount > 2" "" ""),
   .addConstraint ((Constraint.unary .existence "Order").withCardinality 2)]

theorem read_text_orderChanges :
    (build orderChanges).LineSafe ∧
      read .lenient (build orderChanges).text = .ok (build orderChanges) :=
  ⟨by decide +kernel, read_text_build orderChanges (by decide +kernel) .lenient⟩

end Model

end Declare
