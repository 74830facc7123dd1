import Signpost.Template.Basic
import Signpost.Proofs.Outcome
import Signpost.Proofs.Text.Separators

/-!
# Expressions of templates

What stands between the braces of an expression is an operator and, between commas, one or more
names, each with an asterisk behind it if its variable is exploded. Reading accepts exactly such
texts, and the variables it gives are those the text was written for.

## Main definitions

* `Template.Variable.Fits`: a variable that an expression of a kind can hold.
* `Template.Part.WellFormed`: a literal without braces, or variables that make one expression.

## Main results

* `Template.readName_eq_ok_iff`, `Template.readExpression_eq_ok_iff`: reading a name and an
  expression.
* `Template.Part.render_expression`: the text of an expression.
-/

namespace Signpost

namespace Template

/-- The variable is of the kind `kind` and has a name that a template can hold. -/
structure Variable.Fits (kind : VariableKind) (v : Variable) : Prop where
  kind_eq : v.kind = kind
  name : isVariableName v.name = true

/-- A part that stands in a template: a literal without braces, or an expression of one or more
variables of one kind. -/
def Part.WellFormed : Part → Prop
  | literal text => '{' ∉ text ∧ '}' ∉ text
  | expression vars => vars ≠ [] ∧ ∃ kind, ∀ v ∈ vars, v.Fits kind

/-! ### Names -/

theorem notMem_of_isNameChar_eq_false {c : Char} (hc : isNameChar c = false) {name : Text}
    (h : isVariableName name = true) : c ∉ name := by
  intro hmem
  rw [isVariableName, Bool.and_eq_true, List.all_eq_true] at h
  rw [h.2 c hmem] at hc
  exact Bool.false_ne_true hc.symm

theorem ne_nil_of_isVariableName {name : Text} (h : isVariableName name = true) : name ≠ [] := by
  rw [isVariableName, Bool.and_eq_true] at h
  simpa using h.1

variable {kind : VariableKind} {v : Variable} {vars : List Variable}

namespace Variable

theorem label_ne_nil (h : v.Fits kind) : v.label ≠ [] := by
  rw [label]
  split
  · simp
  · exact ne_nil_of_isVariableName h.name

theorem notMem_label {c : Char} (hc : isNameChar c = false) (hstar : c ≠ '*') (h : v.Fits kind) :
    c ∉ v.label := by
  have hname := notMem_of_isNameChar_eq_false hc h.name
  rw [label]
  split
  · simp [hname, hstar]
  · exact hname

end Variable

/-- A name is read exactly if it is the label of a variable that fits. -/
theorem readName_eq_ok_iff {source raw : Text} :
    readName source kind raw = .ok v ↔ v.Fits kind ∧ raw = v.label := by
  rw [readName]
  constructor
  · cases hstrip : Text.stripTail? ['*'] raw with
    | some name =>
      simp only
      split
      · rename_i hname
        intro h
        obtain rfl := Except.ok.inj h
        exact ⟨⟨rfl, hname⟩, Text.stripTail?_eq_some_iff.mp hstrip⟩
      · exact fun h => absurd h (by simp)
    | none =>
      simp only
      split
      · rename_i hname
        intro h
        obtain rfl := Except.ok.inj h
        exact ⟨⟨rfl, hname⟩, rfl⟩
      · exact fun h => absurd h (by simp)
  · rintro ⟨⟨rfl, hname⟩, rfl⟩
    obtain ⟨name, kind, exploded⟩ := v
    cases exploded with
    | true =>
      have hstrip : Text.stripTail? ['*'] (Variable.label ⟨name, kind, true⟩) = some name :=
        Text.stripTail?_eq_some_iff.mpr rfl
      simp only [hstrip]
      rw [if_pos hname]
    | false =>
      have hstar : '*' ∉ name := notMem_of_isNameChar_eq_false (by decide) hname
      have hstrip : Text.stripTail? ['*'] (Variable.label ⟨name, kind, false⟩) = none :=
        Text.stripTail?_of_notMem hstar
      simp only [hstrip]
      exact if_pos hname

theorem forall₂_label_iff {source : Text} {labels : List Text} :
    List.Forall₂ (fun raw v => readName source kind raw = .ok v) labels vars ↔
      labels = vars.map Variable.label ∧ ∀ v ∈ vars, v.Fits kind := by
  induction vars generalizing labels with
  | nil => simp
  | cons v vars ih =>
    rw [List.forall₂_cons_right_iff]
    constructor
    · rintro ⟨raw, rest, hraw, hrest, rfl⟩
      obtain ⟨hfits, rfl⟩ := readName_eq_ok_iff.mp hraw
      obtain ⟨rfl, hall⟩ := ih.mp hrest
      exact ⟨rfl, List.forall_mem_cons.mpr ⟨hfits, hall⟩⟩
    · rintro ⟨rfl, hall⟩
      rw [List.forall_mem_cons] at hall
      exact ⟨v.label, vars.map Variable.label, readName_eq_ok_iff.mpr ⟨hall.1, rfl⟩,
        ih.mpr ⟨rfl, hall.2⟩, rfl⟩

/-- Names between commas are read exactly if they are the labels of one or more variables that
fit. -/
theorem readNames_eq_ok_iff {source names : Text} :
    (Text.splitOn ',' names).mapM (readName source kind) = .ok vars ↔
      vars ≠ [] ∧ (∀ v ∈ vars, v.Fits kind) ∧
        names = Text.join [','] (vars.map Variable.label) := by
  rw [Except.mapM_eq_ok_iff, forall₂_label_iff]
  constructor
  · rintro ⟨hlabels, hall⟩
    refine ⟨?_, hall, ?_⟩
    · rintro rfl
      exact Text.splitOn_ne_nil names hlabels
    · rw [← hlabels, Text.join_splitOn]
  · rintro ⟨hne, hall, rfl⟩
    refine ⟨Text.splitOn_join (by simpa using hne) ?_, hall⟩
    intro label hlabel
    obtain ⟨v, hv, rfl⟩ := List.mem_map.mp hlabel
    exact Variable.notMem_label (by decide) (by decide) (hall v hv)

/-! ### Expressions -/

theorem eq_operator_append (content : Text) :
    content = (splitOperator content).1.operator ++ (splitOperator content).2 := by
  cases content with
  | nil => rfl
  | cons c rest =>
    rw [splitOperator]
    split_ifs with hquery hamp hslash hhash
    · rw [hquery]
      rfl
    · rw [hamp]
      rfl
    · rw [hslash]
      rfl
    · rw [hhash]
      rfl
    · rfl

theorem splitOperator_append {names : Text}
    (h : ∀ c, names.head? = some c → isNameChar c = true) :
    splitOperator (kind.operator ++ names) = (kind, names) := by
  cases kind with
  | path =>
    cases names with
    | nil => rfl
    | cons c names =>
      have hc := h c rfl
      have hne (d : Char) (hd : isNameChar d = false) : c ≠ d := by
        rintro rfl
        rw [hc] at hd
        exact Bool.false_ne_true hd.symm
      simp [VariableKind.operator, splitOperator, hne '?' (by decide), hne '&' (by decide),
        hne '/' (by decide), hne '#' (by decide)]
  | query => rfl
  | queryContinued => rfl
  | segment => rfl
  | fragment => rfl

theorem isNameChar_of_head?_label {c : Char} (hfits : v.Fits kind) (h : v.label.head? = some c) :
    isNameChar c = true := by
  have hname : v.name.head? = some c := by
    rw [Variable.label] at h
    split at h
    · rwa [List.head?_append_of_ne_nil _ (ne_nil_of_isVariableName hfits.name)] at h
    · exact h
  have hall := hfits.name
  rw [isVariableName, Bool.and_eq_true, List.all_eq_true] at hall
  exact hall.2 c (List.mem_of_head? hname)

/-- What stands between the braces of an expression of the kind `kind`. -/
def expressionText (kind : VariableKind) (vars : List Variable) : Text :=
  kind.operator ++ Text.join [','] (vars.map Variable.label)

theorem head?_join_label (h : ∀ v ∈ vars, v.Fits kind) {c : Char}
    (hc : (Text.join [','] (vars.map Variable.label)).head? = some c) : isNameChar c = true := by
  cases vars with
  | nil => exact absurd hc (by simp [Text.join])
  | cons v rest =>
    have hfits := h v List.mem_cons_self
    refine isNameChar_of_head?_label hfits ?_
    cases rest with
    | nil => exact hc
    | cons w rest =>
      rw [List.map_cons, List.map_cons, Text.join, List.append_assoc,
        List.head?_append_of_ne_nil _ (Variable.label_ne_nil hfits)] at hc
      · exact hc
      · exact List.cons_ne_nil _ _

/-- The content of an expression is read exactly if it is written for one or more variables of one
kind. -/
theorem readExpression_eq_ok_iff {source content : Text} :
    readExpression source content = .ok vars ↔
      vars ≠ [] ∧ ∃ kind, (∀ v ∈ vars, v.Fits kind) ∧ content = expressionText kind vars := by
  have hread (kind : VariableKind) (names : Text) (hsplit : splitOperator content = (kind, names)) :
      readExpression source content = (Text.splitOn ',' names).mapM (readName source kind) := by
    rw [readExpression, hsplit]
  constructor
  · intro h
    rw [hread _ _ rfl, readNames_eq_ok_iff] at h
    obtain ⟨hne, hall, hnames⟩ := h
    refine ⟨hne, _, hall, ?_⟩
    rw [expressionText, ← hnames]
    exact eq_operator_append content
  · rintro ⟨hne, kind, hall, rfl⟩
    rw [hread kind _ (splitOperator_append fun c => head?_join_label hall), readNames_eq_ok_iff]
    exact ⟨hne, hall, rfl⟩

/-! ### Texts of expressions -/

theorem combines_self (kind : VariableKind) : kind.combines kind = true := by
  cases kind <;> rfl

theorem renderAfter_eq (previous : Variable) (hprevious : previous.kind = kind) :
    (vars : List Variable) → (∀ v ∈ vars, v.Fits kind) →
    Variable.renderAfter previous vars = vars.flatMap (fun v => ',' :: v.label) ++ ['}']
  | [], _ => rfl
  | v :: vars, h => by
    have hv := h v List.mem_cons_self
    have hrest := renderAfter_eq v hv.kind_eq vars fun w hw => h w (List.mem_cons_of_mem v hw)
    rw [Variable.renderAfter, hrest, hprevious, hv.kind_eq, combines_self, List.flatMap_cons]
    simp

/-- Variables of one kind are written as one expression. -/
theorem Part.render_expression (hne : vars ≠ []) (h : ∀ v ∈ vars, v.Fits kind) :
    (Part.expression vars).render = '{' :: expressionText kind vars ++ ['}'] := by
  obtain ⟨v, rest, rfl⟩ := List.exists_cons_of_ne_nil hne
  have hv := h v List.mem_cons_self
  have hrest := renderAfter_eq v hv.kind_eq rest fun w hw => h w (List.mem_cons_of_mem v hw)
  have hleading : kind.leading false = kind := by cases kind <;> rfl
  rw [Part.render, Variable.render, hrest, hv.kind_eq, hleading, expressionText, List.map_cons,
    Text.join_cons, List.flatMap_map]
  simp

/-- Beside names, asterisks and commas an expression has its operator alone. -/
theorem mem_expressionText_iff {c : Char} (hc : isNameChar c = false) (hmark : c ∉ ['*', ','])
    (h : ∀ v ∈ vars, v.Fits kind) : c ∈ expressionText kind vars ↔ c ∈ kind.operator := by
  obtain ⟨hstar, hcomma⟩ : c ≠ '*' ∧ c ≠ ',' := by simpa using hmark
  refine List.mem_append.trans (or_iff_left fun hnames => ?_)
  rcases Text.mem_join hnames with hsep | ⟨label, hlabel, hin⟩
  · exact hcomma (List.mem_singleton.mp hsep)
  · obtain ⟨v, hv, rfl⟩ := List.mem_map.mp hlabel
    exact Variable.notMem_label hc hstar (h v hv) hin

theorem notMem_expressionText {c : Char} (hc : isNameChar c = false) (hmark : c ∉ "*,?&/#".toList)
    (h : ∀ v ∈ vars, v.Fits kind) : c ∉ expressionText kind vars := by
  obtain ⟨hstar, hcomma, hquery, hamp, hslash, hhash⟩ :
      c ≠ '*' ∧ c ≠ ',' ∧ c ≠ '?' ∧ c ≠ '&' ∧ c ≠ '/' ∧ c ≠ '#' := by
    simpa using hmark
  rw [mem_expressionText_iff hc (by simp [hstar, hcomma]) h]
  cases kind <;> simp [VariableKind.operator, hquery, hamp, hslash, hhash]

end Template

end Signpost
