import Redaction.Proofs.Attribute.Listed

/-!
# When the attributes of a field are understood

The attributes of a field are understood if one of them at most has the path `protected`, and if
this one stands alone or with a list of items, each `hide_name` or `name = "text"`, with one name at
most. Everything else is refused: in a list the first item that is neither, or that gives a second
name, and among the attributes the first that is not understood or is the second one.
-/

namespace Redaction.Protection

/-- The items that a list may hold. -/
inductive Known : List Token → Prop where
  | hide : Known hideItem
  | name (text : String) : Known [.word "name", .mark '=', .text text]

/-- The item gives a name. -/
def Names (item : List Token × Bool) : Prop := ∃ text, item.1 = [.word "name", .mark '=', .text text]

/-- The items of a list are known, and one at most gives a name. -/
abbrev ItemsFit : List (List Token × Bool) → Prop :=
  Fit (fun item => Known item.1) fun a b => Names a → ¬ Names b

/-- What is wrong behind the option `name`, at the end of the list or not. -/
inductive ValueFault (atEnd : Bool) : List Token → Attribute.ListFault → Prop where
  | equals {rest : List Token} (other : rest.head? ≠ some (.mark '=')) :
      ValueFault atEnd rest .missingEquals
  | text {rest : List Token} (other : ∀ text, rest.head? ≠ some (.text text)) :
      ValueFault atEnd (.mark '=' :: rest) (.missingText (atEnd && rest.isEmpty))
  | comma {text : String} {rest : List Token} (some : rest ≠ []) :
      ValueFault atEnd (.mark '=' :: .text text :: rest) .missingComma

/-- What is wrong with an item behind others: it does not begin with an option, it begins with an
unknown one or with a second `name`, the name has no value, or something follows `hide_name`. -/
inductive ItemRefused (before : List (List Token × Bool)) : List Token × Bool → Fault → Prop where
  | unread {item : List Token × Bool} {fault : Attribute.ListFault}
      (unread : Attribute.readItem item.1 item.2 = .error fault) :
      ItemRefused before item (.list fault)
  | unknown {item : List Token × Bool} {read : Attribute.Item}
      (begins : Attribute.readItem item.1 item.2 = .ok read) (noName : read.option ≠ some "name")
      (other : read.option ≠ some "hide_name") :
      ItemRefused before item (.unknownOption (read.option.getD "?"))
  | renamed {item first : List Token × Bool} {read : Attribute.Item}
      (begins : Attribute.readItem item.1 item.2 = .ok read) (option : read.option = some "name")
      (here : first ∈ before) (named : Names first) : ItemRefused before item .repeatedName
  | value {item : List Token × Bool} {read : Attribute.Item} {fault : Attribute.ListFault}
      (begins : Attribute.readItem item.1 item.2 = .ok read) (option : read.option = some "name")
      (unnamed : ∀ first ∈ before, ¬ Names first) (wrong : ValueFault item.2 read.rest fault) :
      ItemRefused before item (.list fault)
  | followed {item : List Token × Bool} {read : Attribute.Item}
      (begins : Attribute.readItem item.1 item.2 = .ok read)
      (option : read.option = some "hide_name") (some : read.rest ≠ []) :
      ItemRefused before item (.list .missingComma)

/-- What may follow the path. -/
inductive Understood : Attribute.Form → Prop where
  | bare : Understood .bare
  | options {tokens : List Token} {items : List (List Token × Bool)}
      (lists : Attribute.Lists tokens items) (fit : ItemsFit items) : Understood (.list tokens)

/-- What is wrong with what follows the path. -/
inductive FormFault : Attribute.Form → Fault → Prop where
  | assigned (literal : Token) : FormFault (.value literal) .assigned
  | items {tokens : List Token} {items : List (List Token × Bool)} {fault : Fault}
      (lists : Attribute.Lists tokens items) (first : FirstRefused ItemsFit ItemRefused items fault) :
      FormFault (.list tokens) fault

/-- Every attribute `protected` is understood, and there is one at most. -/
abbrev WellFormed : List Attribute → Prop :=
  Fit (fun a => a.path = "protected" → Understood a.form)
    fun a b => a.path = "protected" → b.path ≠ "protected"

/-- What is wrong with an attribute behind others: it is not understood, or else it is not the
first. -/
inductive Refused (before : List Attribute) : Attribute → Fault → Prop where
  | form {a : Attribute} {fault : Fault} (named : a.path = "protected")
      (wrong : FormFault a.form fault) : Refused before a fault
  | repeated {a b : Attribute} (first : b ∈ before) (named : b.path = "protected")
      (again : a.path = "protected") (understood : Understood a.form) : Refused before a .repeated

/-! ## Items -/

theorem atEnd_of_readItem {tokens : List Token} {atEnd : Bool} {read : Attribute.Item}
    (h : Attribute.readItem tokens atEnd = .ok read) : read.atEnd = atEnd := by
  unfold Attribute.readItem at h
  split at h
  · obtain ⟨rest, -, h⟩ := bind_eq_ok.1 h
    cases h
    rfl
  · cases h
    rfl
  · obtain ⟨rest, -, h⟩ := bind_eq_ok.1 h
    cases h
    rfl
  · cases h
  · cases h

/-- The value of a name is taken if it is an equals sign and a text, and refused otherwise. -/
theorem takeName_judged (given : Given) (read : Attribute.Item) :
    Judged (takeName given read) (∃ text, read.rest = [.mark '=', .text text])
      (fun e => ∃ fault, ValueFault read.atEnd read.rest fault ∧ e = .list fault) := by
  obtain ⟨option, rest, atEnd⟩ := read
  refine .of_exhaustive ?_ ?_ ?_
  · rintro ⟨text, rfl⟩
    exact ⟨_, rfl⟩
  · rintro _ ⟨fault, wrong, rfl⟩
    cases wrong with
    | equals other =>
        unfold takeName
        split
        next heq => exact absurd (congrArg List.head? heq) other
        next heq => exact absurd (congrArg List.head? heq) other
        next heq => exact absurd (congrArg List.head? heq) other
        next => rfl
    | @text rest other =>
        unfold takeName
        split
        next text heq => exact absurd (congrArg List.head? (List.cons.inj heq).2) (other text)
        next text _ _ heq => exact absurd (congrArg List.head? (List.cons.inj heq).2) (other text)
        next heq => rw [(List.cons.inj heq).2]
        next noEquals => exact absurd rfl (noEquals rest)
    | @comma text rest some =>
        cases rest with
        | nil => exact absurd rfl some
        | cons token rest => rfl
  · by_cases hequals : rest.head? = some (.mark '=')
    · obtain ⟨rest, rfl⟩ := List.head?_eq_some_iff.1 hequals
      by_cases htext : ∃ text, rest.head? = some (.text text)
      · obtain ⟨text, htext⟩ := htext
        obtain ⟨rest, rfl⟩ := List.head?_eq_some_iff.1 htext
        by_cases hrest : rest = []
        · exact .inl ⟨text, by rw [hrest]⟩
        · exact .inr ⟨_, _, .comma hrest, rfl⟩
      · exact .inr ⟨_, _, .text (not_exists.1 htext), rfl⟩
    · exact .inr ⟨_, _, .equals hequals, rfl⟩

theorem not_names_hideItem (atEnd : Bool) : ¬ Names (hideItem, atEnd) := by
  rintro ⟨text, h⟩
  simp [hideItem] at h

/-- Where it is known whether the items before it give a name, one more item is taken if it is known
and gives no second name, and refused otherwise. -/
theorem takeNext_judged {before : List (List Token × Bool)} {given : Given}
    (hknows : given.name = none ↔ ∀ first ∈ before, ¬ Names first) (item : List Token × Bool) :
    Judged (Attribute.takeNext .list takeItem given item)
      (Known item.1 ∧ ∀ first ∈ before, Names first → ¬ Names item) (ItemRefused before item) := by
  obtain ⟨tokens, atEnd⟩ := item
  rw [Attribute.takeNext]
  refine .of_exhaustive ?_ ?_ ?_
  · rintro ⟨known, hnew⟩
    dsimp only at known
    cases known with
    | hide => exact ⟨{ given with nameHidden := true }, rfl⟩
    | name text =>
        have hnone : given.name = none :=
          hknows.2 fun first here named => hnew first here named ⟨text, rfl⟩
        refine ⟨{ given with name := some text }, if_neg ?_⟩
        rw [hnone]
        exact Bool.false_ne_true
  · intro e h
    cases h with
    | unread unread =>
        rw [unread]
        rfl
    | unknown begins noName other =>
        rw [begins]
        exact (if_neg noName).trans (if_neg other)
    | renamed begins option here named =>
        have hsome : given.name.isSome := by
          rw [Option.isSome_iff_ne_none, Ne, hknows]
          intro hunnamed
          exact hunnamed _ here named
        rw [begins]
        exact (if_pos option).trans (if_pos hsome)
    | value begins option unnamed wrong =>
        have hnone : ¬ given.name.isSome := by
          rw [hknows.2 unnamed]
          exact Bool.false_ne_true
        rw [← atEnd_of_readItem begins] at wrong
        rw [begins]
        refine (if_pos option).trans ((if_neg hnone).trans ?_)
        exact ((takeName_judged given _).error _).2 ⟨_, wrong, rfl⟩
    | followed begins option hrest =>
        rw [begins]
        refine (if_neg ?_).trans ((if_pos option).trans (if_neg hrest))
        rw [option]
        decide
  · cases hread : Attribute.readItem tokens atEnd with
    | error fault => exact .inr ⟨_, .unread hread⟩
    | ok read =>
        by_cases hname : read.option = some "name"
        · by_cases hfirst : ∃ first ∈ before, Names first
          · obtain ⟨first, here, named⟩ := hfirst
            exact .inr ⟨_, .renamed hread hname here named⟩
          · have hunnamed : ∀ first ∈ before, ¬ Names first := by
              intro first here named
              exact hfirst ⟨first, here, named⟩
            obtain ⟨text, htext⟩ | ⟨_, fault, wrong, _⟩ := (takeName_judged given read).exhaustive
            · refine .inl ⟨?_, fun first here named => absurd named (hunnamed first here)⟩
              rw [Attribute.readItem_eq_ok hread hname, htext]
              exact .name text
            · rw [atEnd_of_readItem hread] at wrong
              exact .inr ⟨_, .value hread hname hunnamed wrong⟩
        · by_cases hhide : read.option = some "hide_name"
          · by_cases hrest : read.rest = []
            · have htokens : tokens = hideItem := by
                rw [Attribute.readItem_eq_ok hread hhide, hrest, hideItem]
              rw [htokens]
              exact .inl ⟨.hide, fun first _ _ => not_names_hideItem atEnd⟩
            · exact .inr ⟨_, .followed hread hhide hrest⟩
          · exact .inr ⟨_, .unknown hread hname hhide⟩

/-- The items of a list are taken one by one, and the state remembers whether one gave a name. -/
theorem items_stepThrough :
    StepsThrough (Attribute.foldItems .list takeItem) (Attribute.takeNext .list takeItem)
      (fun before (given : Given) => given.name = none ↔ ∀ first ∈ before, ¬ Names first)
      ItemsFit ItemRefused where
  nil _ := rfl
  cons := Attribute.foldItems_cons
  shorter _ _ h := (fit_append_singleton.1 h).1
  judged before given item hknows hbefore := by
    rw [ItemsFit, fit_append_singleton, and_iff_right hbefore]
    exact takeNext_judged hknows item
  knows before given item next hknows htake := by
    obtain ⟨tokens, atEnd⟩ := item
    obtain ⟨known, hnew⟩ := (takeNext_judged hknows (tokens, atEnd)).ok.1 ⟨next, htake⟩
    dsimp only at known
    rw [List.forall_mem_append, List.forall_mem_singleton]
    cases known with
    | hide =>
        cases htake
        rw [and_iff_left (not_names_hideItem atEnd)]
        exact hknows
    | name text =>
        have hnone : ¬ given.name.isSome := by
          rw [hknows.2 fun first here named => hnew first here named ⟨text, rfl⟩]
          exact Bool.false_ne_true
        have hnext : next = { given with name := some text } := by
          have htaken := htake.symm.trans (if_neg hnone)
          cases htaken
          rfl
        rw [hnext]
        constructor
        · intro h
          cases h
        · rintro ⟨_, hnot⟩
          exact absurd ⟨text, rfl⟩ hnot

/-! ## Attributes -/

theorem ofForm_judged (form : Attribute.Form) :
    Judged (ofForm form) (Understood form) (FormFault form) := by
  cases form with
  | bare =>
      refine .of_ok .bare ?_
      rintro e ⟨⟩
  | value literal =>
      refine .of_error (.assigned literal) ?_ ?_
      · rintro ⟨⟩
      · intro e h
        cases h
        rfl
  | list tokens =>
      obtain ⟨items, hlists⟩ := Attribute.exists_lists tokens
      rw [ofForm, hlists.readList_eq]
      refine (items_stepThrough.judged_run (by simp) fit_nil items).bind_pure.congr
        ?_ ?_
      · constructor
        · intro fit
          exact .options hlists fit
        · intro understood
          cases understood with
          | options hother fit =>
              obtain rfl := hlists.unique hother
              exact fit
      · intro e
        constructor
        · intro first
          exact .items hlists first
        · intro hfault
          cases hfault with
          | items hother first =>
              obtain rfl := hlists.unique hother
              exact first

/-- The step for one attribute. -/
def takeOne (found : Protection) (a : Attribute) : Except Fault Protection :=
  if a.path = "protected" then do
    let protection ← ofForm a.form
    if found = .plain then return protection else .error .repeated
  else .ok found

theorem takeAll_cons (found : Protection) (a : Attribute) (rest : List Attribute) :
    takeAll found (a :: rest) = takeOne found a >>= fun next => takeAll next rest := by
  rw [takeAll, takeOne]
  by_cases hpath : a.path = "protected"
  · rw [if_pos hpath, if_pos hpath]
    cases ofForm a.form with
    | error fault => rfl
    | ok protection =>
        by_cases hfound : found = .plain
        · simp only [if_pos hfound]
          rfl
        · simp only [if_neg hfound]
          rfl
  · rw [if_neg hpath, if_neg hpath]
    rfl

theorem takeOne_judged {before : List Attribute} {found : Protection}
    (hknows : found = .plain ↔ ∀ b ∈ before, b.path ≠ "protected") (a : Attribute) :
    Judged (takeOne found a)
      ((a.path = "protected" → Understood a.form) ∧
        ∀ b ∈ before, b.path = "protected" → a.path ≠ "protected") (Refused before a) := by
  rw [takeOne]
  by_cases hpath : a.path = "protected"
  · rw [if_pos hpath]
    refine .of_exhaustive ?_ ?_ ?_
    · rintro ⟨understood, hnew⟩
      obtain ⟨protection, hprotection⟩ := (ofForm_judged a.form).ok.2 (understood hpath)
      have hfound : found = .plain := hknows.2 fun b hb hprotected => hnew b hb hprotected hpath
      rw [hprotection]
      exact ⟨protection, if_pos hfound⟩
    · intro e h
      cases h with
      | form _ wrong =>
          rw [((ofForm_judged a.form).error e).2 wrong]
          rfl
      | repeated first named _ understood =>
          obtain ⟨protection, hprotection⟩ := (ofForm_judged a.form).ok.2 understood
          have hfound : found ≠ .plain := fun hfound => hknows.1 hfound _ first named
          rw [hprotection]
          exact if_neg hfound
    · obtain understood | ⟨e, wrong⟩ := (ofForm_judged a.form).exhaustive
      · by_cases hfirst : ∃ b ∈ before, b.path = "protected"
        · obtain ⟨b, hb, hprotected⟩ := hfirst
          exact .inr ⟨_, .repeated hb hprotected hpath understood⟩
        · exact .inl ⟨fun _ => understood, fun b hb hprotected => absurd ⟨b, hb, hprotected⟩ hfirst⟩
      · exact .inr ⟨e, .form hpath wrong⟩
  · rw [if_neg hpath]
    refine .of_ok ⟨fun h => absurd h hpath, fun _ _ _ => hpath⟩ ?_
    intro e h
    cases h with
    | form named _ => exact hpath named
    | repeated _ _ again _ => exact hpath again

/-- The attributes are taken one by one, and the state remembers whether one protected the field. -/
theorem stepThrough :
    StepsThrough takeAll takeOne
      (fun before found => found = .plain ↔ ∀ b ∈ before, b.path ≠ "protected") WellFormed
      Refused where
  nil _ := rfl
  cons := takeAll_cons
  shorter _ _ h := (fit_append_singleton.1 h).1
  judged before found a hknows hbefore := by
    rw [WellFormed, fit_append_singleton, and_iff_right hbefore]
    exact takeOne_judged hknows a
  knows before found a next hknows htake := by
    rw [List.forall_mem_append, List.forall_mem_singleton]
    rw [takeOne] at htake
    split at htake
    next hpath =>
      obtain ⟨protection, hform, htake⟩ := bind_eq_ok.1 htake
      split at htake
      · cases htake
        have hsecret := ofForm_eq_ok hform
        rw [hsecret]
        constructor
        · intro h
          cases h
        · rintro ⟨_, hnot⟩
          exact absurd hpath hnot
      · cases htake
    next hpath =>
      cases htake
      rw [and_iff_left hpath]
      exact hknows

/-- The attributes of a field are accepted if they are well formed, and otherwise the first fault is
reported. -/
theorem ofAttributes_judged (attributes : List Attribute) :
    Judged (ofAttributes attributes) (WellFormed attributes)
      (FirstRefused WellFormed Refused attributes) :=
  stepThrough.judged_run (by simp) fit_nil attributes

end Redaction.Protection
