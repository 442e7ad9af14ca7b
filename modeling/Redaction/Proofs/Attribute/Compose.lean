import Redaction.Attribute.Compose
import Redaction.Proofs.Attribute.Listed

/-!
# When attributes `compose` are understood

An attribute `compose` is understood if it holds one text, which is the template, or a list in
which nothing but `skip_display` stands; the list may be empty. Among the attributes of a
declaration there is one template at most. The first attribute that is not understood, or that gives
a second template, is refused, and in a list the first item is that is not the option.

Attributes that are understood say what stands in them: the template is the one that an attribute
gives, and `skip_display` is asked for if it stands in any list.
-/

namespace Redaction.Compose

/-- The one item that a list may hold. -/
def skipItem : List Token := [.word "skip_display"]

/-- The attribute gives this template. -/
def Gives (a : Attribute) (template : String) : Prop :=
  a.path = "compose" ∧ a.form = .list [.text template]

/-- The attribute gives a template. -/
def GivesSome (a : Attribute) : Prop := ∃ template, Gives a template

/-- One of the attributes holds the option in its list. -/
def Skips (attributes : List Attribute) : Prop :=
  ∃ a ∈ attributes, a.path = "compose" ∧ skipItem ∈ a.items

/-- What may follow the path. -/
inductive Understood : Attribute.Form → Prop where
  | template (text : String) : Understood (.list [.text text])
  | options {tokens : List Token} {items : List (List Token × Bool)}
      (lists : Attribute.Lists tokens items) (known : ∀ item ∈ items, item.1 = skipItem) :
      Understood (.list tokens)

/-- What is wrong with an item: it does not begin with an option, it begins with another option, or
something follows the option. -/
inductive ItemFault : List Token × Bool → Fault → Prop where
  | unread {item : List Token × Bool} {fault : Attribute.ListFault}
      (unread : Attribute.readItem item.1 item.2 = .error fault) : ItemFault item (.list fault)
  | unknown {item : List Token × Bool} {read : Attribute.Item}
      (begins : Attribute.readItem item.1 item.2 = .ok read)
      (other : read.option ≠ some "skip_display") :
      ItemFault item (.unknownOption (read.option.getD "?"))
  | followed {item : List Token × Bool} {read : Attribute.Item}
      (begins : Attribute.readItem item.1 item.2 = .ok read)
      (option : read.option = some "skip_display") (some : read.rest ≠ []) :
      ItemFault item (.list .missingComma)

/-- What is wrong with what follows the path. -/
inductive FormFault : Attribute.Form → Fault → Prop where
  | bare : FormFault .bare .bare
  | assigned (literal : Token) : FormFault (.value literal) .assigned
  | items {tokens : List Token} {items : List (List Token × Bool)} {fault : Fault}
      (lists : Attribute.Lists tokens items) (noTemplate : ∀ text, tokens ≠ [.text text])
      (first : FirstRefusedOf (fun item => item.1 = skipItem) ItemFault items fault) :
      FormFault (.list tokens) fault

/-- Every attribute `compose` is understood, and one at most gives a template. -/
abbrev WellFormed : List Attribute → Prop :=
  Fit (fun a => a.path = "compose" → Understood a.form) fun a b => GivesSome a → ¬ GivesSome b

/-- What is wrong with an attribute behind others. -/
inductive Refused (before : List Attribute) : Attribute → Fault → Prop where
  | form {a : Attribute} {fault : Fault} (named : a.path = "compose")
      (wrong : FormFault a.form fault) : Refused before a fault
  | repeated {a b : Attribute} (first : b ∈ before) (gives : GivesSome b) (again : GivesSome a) :
      Refused before a .repeatedTemplate

/-- What the attributes say is what is given. -/
structure Says (attributes : List Attribute) (given : Compose) : Prop where
  template (text : String) : given.template = some text ↔ ∃ a ∈ attributes, Gives a text
  skipDisplay : given.skipDisplay = true ↔ Skips attributes

/-! ## Items -/

/-- One item is taken if it is the option, and refused otherwise. -/
theorem takeNext_judged (given : Compose) (item : List Token × Bool) :
    Judged (Attribute.takeNext .list takeItem given item) (item.1 = skipItem) (ItemFault item) := by
  obtain ⟨tokens, atEnd⟩ := item
  rw [Attribute.takeNext]
  refine .of_exhaustive ?_ ?_ ?_
  · rintro rfl
    exact ⟨{ given with skipDisplay := true }, rfl⟩
  · intro e h
    cases h with
    | unread unread =>
        rw [unread]
        rfl
    | unknown begins other =>
        rw [begins]
        exact if_neg other
    | followed begins option some =>
        rw [begins]
        exact (if_pos option).trans (if_neg some)
  · cases hread : Attribute.readItem tokens atEnd with
    | error fault => exact .inr ⟨_, .unread hread⟩
    | ok read =>
        by_cases hoption : read.option = some "skip_display"
        · by_cases hrest : read.rest = []
          · refine .inl ?_
            rw [Attribute.readItem_eq_ok hread hoption, hrest, skipItem]
          · exact .inr ⟨_, .followed hread hoption hrest⟩
        · exact .inr ⟨_, .unknown hread hoption⟩

/-- The items of a list are taken one by one, and nothing comes of them but that the option is
asked for. -/
theorem items_stepThrough (given : Compose) :
    StepsThrough (Attribute.foldItems .list takeItem) (Attribute.takeNext .list takeItem)
      (fun before (state : Compose) => state.template = given.template ∧
        (state.skipDisplay = true ↔
          given.skipDisplay = true ∨ skipItem ∈ before.map (·.1)))
      (fun items => ∀ item ∈ items, item.1 = skipItem) (fun _ => ItemFault) where
  nil _ := rfl
  cons := Attribute.foldItems_cons
  shorter before x h item hitem := h item (List.mem_append_left _ hitem)
  judged before state item _ hbefore := by
    have hall : (∀ i ∈ before ++ [item], i.1 = skipItem) ↔ item.1 = skipItem := by
      rw [List.forall_mem_append, List.forall_mem_singleton, and_iff_right hbefore]
    rw [hall]
    exact takeNext_judged state item
  knows before state item next hknows htake := by
    obtain ⟨tokens, atEnd⟩ := item
    obtain rfl : tokens = skipItem := (takeNext_judged state (tokens, atEnd)).ok.1 ⟨next, htake⟩
    cases htake
    simp [hknows.1]

/-! ## Attributes -/

/-- The step for one attribute. -/
def takeOne (given : Compose) (a : Attribute) : Except Fault Compose :=
  if a.path = "compose" then takeForm given a.form else .ok given

theorem takeAll_cons (given : Compose) (a : Attribute) (rest : List Attribute) :
    takeAll given (a :: rest) = takeOne given a >>= fun next => takeAll next rest := by
  rw [takeAll, takeOne]
  by_cases hpath : a.path = "compose"
  · rw [if_pos hpath, if_pos hpath]
    cases takeForm given a.form <;> rfl
  · rw [if_neg hpath, if_neg hpath]
    rfl

theorem takeForm_template (given : Compose) (text : String) :
    takeForm given (.list [.text text]) =
      if given.template.isSome then .error .repeatedTemplate
      else .ok { given with template := some text } := rfl

theorem takeForm_list {given : Compose} {tokens : List Token}
    (noTemplate : ∀ text, tokens ≠ [.text text]) :
    takeForm given (.list tokens) = Attribute.readList .list takeItem given tokens := by
  rw [takeForm]
  exact noTemplate

/-- What follows the path is taken if it is understood, and if it is no template after another. -/
theorem takeForm_judged (given : Compose) (form : Attribute.Form) :
    Judged (takeForm given form)
      (Understood form ∧ (given.template.isSome → ∀ text, form ≠ .list [.text text]))
      (fun e => FormFault form e ∨
        given.template.isSome ∧ (∃ text, form = .list [.text text]) ∧ e = .repeatedTemplate) := by
  cases form with
  | bare =>
      refine .of_error (.inl .bare) ?_ ?_
      · rintro ⟨⟨⟩, _⟩
      · rintro e (hfault | ⟨_, ⟨_, h⟩, _⟩)
        · cases hfault
          rfl
        · cases h
  | value literal =>
      refine .of_error (.inl (.assigned literal)) ?_ ?_
      · rintro ⟨⟨⟩, _⟩
      · rintro e (hfault | ⟨_, ⟨_, h⟩, _⟩)
        · cases hfault
          rfl
        · cases h
  | list tokens =>
      by_cases htemplate : ∃ text, tokens = [.text text]
      · obtain ⟨text, rfl⟩ := htemplate
        have hsound : ∀ e, ¬ FormFault (.list [.text text]) e := by
          intro e hfault
          cases hfault with
          | items _ noTemplate _ => exact noTemplate text rfl
        rw [takeForm_template]
        split
        next hsome =>
          refine .of_error (.inr ⟨hsome, ⟨text, rfl⟩, rfl⟩) ?_ ?_
          · rintro ⟨_, hfirst⟩
            exact hfirst hsome text rfl
          · rintro e (hfault | ⟨_, _, rfl⟩)
            · exact absurd hfault (hsound e)
            · rfl
        next hnone =>
          refine .of_ok ⟨.template text, fun hsome => absurd hsome hnone⟩ ?_
          rintro e (hfault | ⟨hsome, _⟩)
          · exact hsound e hfault
          · exact hnone hsome
      · rw [not_exists] at htemplate
        obtain ⟨items, hlists⟩ := Attribute.exists_lists tokens
        rw [takeForm_list htemplate, hlists.readList_eq]
        refine ((items_stepThrough given).judged_run ⟨rfl, by simp⟩ (by simp)
          items).congr ?_ ?_
        · constructor
          · intro known
            exact ⟨.options hlists known, fun _ text h => htemplate text (Attribute.Form.list.inj h)⟩
          · rintro ⟨understood, _⟩
            cases understood with
            | template text => exact absurd rfl (htemplate text)
            | options hother known =>
                obtain rfl := hlists.unique hother
                exact known
        · intro e
          constructor
          · intro first
            exact .inl (.items hlists htemplate first)
          · rintro (hfault | ⟨_, ⟨text, h⟩, _⟩)
            · cases hfault with
              | items hother _ first =>
                  obtain rfl := hlists.unique hother
                  exact first
            · exact absurd (Attribute.Form.list.inj h) (htemplate text)

theorem skips_append_singleton {before : List Attribute} {a : Attribute} :
    Skips (before ++ [a]) ↔ Skips before ∨ a.path = "compose" ∧ skipItem ∈ a.items := by
  simp only [Skips, List.mem_append, List.mem_singleton, or_and_right, exists_or, exists_eq_left]

theorem Says.isSome_iff {before : List Attribute} {given : Compose} (h : Says before given) :
    given.template.isSome ↔ ∃ b ∈ before, GivesSome b := by
  rw [Option.isSome_iff_exists]
  constructor
  · rintro ⟨text, htext⟩
    obtain ⟨b, hb, hgives⟩ := (h.template text).1 htext
    exact ⟨b, hb, text, hgives⟩
  · rintro ⟨b, hb, text, hgives⟩
    exact ⟨text, (h.template text).2 ⟨b, hb, hgives⟩⟩

/-- An attribute that gives no template leaves the one that there is. -/
theorem Says.append_of_not_gives {before : List Attribute} {given next : Compose} {a : Attribute}
    (h : Says before given) (ha : ¬ GivesSome a) (htemplate : next.template = given.template)
    (hskip : next.skipDisplay = true ↔
      given.skipDisplay = true ∨ a.path = "compose" ∧ skipItem ∈ a.items) :
    Says (before ++ [a]) next := by
  refine ⟨?_, ?_⟩
  · intro text
    rw [htemplate, h.template]
    constructor
    · rintro ⟨b, hb, hgives⟩
      exact ⟨b, List.mem_append_left _ hb, hgives⟩
    · rintro ⟨b, hb, hgives⟩
      obtain hb | hb := List.mem_append.1 hb
      · exact ⟨b, hb, hgives⟩
      · obtain rfl := List.mem_singleton.1 hb
        exact absurd ⟨text, hgives⟩ ha
  · rw [hskip, h.skipDisplay, skips_append_singleton]

theorem Says.append_of_gives {before : List Attribute} {given : Compose} {a : Attribute}
    {text : String} (h : Says before given) (hnone : ¬ given.template.isSome)
    (ha : Gives a text) : Says (before ++ [a]) { given with template := some text } := by
  rw [h.isSome_iff] at hnone
  have hskip : skipItem ∉ a.items := by
    have hsplit : [Token.text text].splitOn (.mark ',') = [[.text text]] :=
      separated_iff.1 ⟨by simp, by simp, rfl⟩
    simp [Attribute.items, ha.2, hsplit, skipItem]
  refine ⟨?_, ?_⟩
  · intro other
    constructor
    · intro hother
      cases hother
      exact ⟨a, List.mem_append_right _ (List.mem_singleton_self a), ha⟩
    · rintro ⟨b, hb, hgives⟩
      obtain hb | hb := List.mem_append.1 hb
      · exact absurd ⟨b, hb, other, hgives⟩ hnone
      · obtain rfl := List.mem_singleton.1 hb
        have htexts := ha.2.symm.trans hgives.2
        simp only [Attribute.Form.list.injEq, List.cons.injEq, Token.text.injEq, and_true] at htexts
        rw [htexts]
  · rw [skips_append_singleton, ← h.skipDisplay, or_iff_left fun hboth => hskip hboth.2]

theorem Says.append {before : List Attribute} {given next : Compose} {a : Attribute}
    (h : Says before given) (htake : takeOne given a = .ok next) : Says (before ++ [a]) next := by
  rw [takeOne] at htake
  split at htake
  next hpath =>
    have hjudged := (takeForm_judged given a.form).ok.1 ⟨next, htake⟩
    cases hform : a.form with
    | bare =>
        rw [hform] at htake
        cases htake
    | value literal =>
        rw [hform] at htake
        cases htake
    | list tokens =>
        rw [hform] at htake hjudged
        by_cases htemplate : ∃ text, tokens = [.text text]
        · obtain ⟨text, rfl⟩ := htemplate
          have hnone : ¬ given.template.isSome := fun hsome => hjudged.2 hsome text rfl
          rw [takeForm_template, if_neg hnone] at htake
          cases htake
          exact h.append_of_gives hnone ⟨hpath, hform⟩
        · rw [not_exists] at htemplate
          obtain ⟨items, hlists⟩ := Attribute.exists_lists tokens
          rw [takeForm_list htemplate, hlists.readList_eq] at htake
          have hlast := (items_stepThrough given).knows_of_eq_ok ⟨rfl, by simp⟩ htake
          have hitems : skipItem ∈ a.items ↔ skipItem ∈ items.map (·.1) := by
            rw [Attribute.items, hform]
            exact hlists.mem_items (List.cons_ne_nil _ _)
          refine h.append_of_not_gives ?_ hlast.1 ?_
          · rintro ⟨text, _, hgives⟩
            rw [hform] at hgives
            exact htemplate text (Attribute.Form.list.inj hgives)
          · rw [hlast.2, hitems, and_iff_right hpath]
  next hpath =>
    cases htake
    refine h.append_of_not_gives ?_ rfl ?_
    · rintro ⟨_, hnamed, _⟩
      exact hpath hnamed
    · simp [hpath]

/-- The attributes are taken one by one, and what is given is what they say. -/
theorem stepThrough :
    StepsThrough takeAll takeOne Says WellFormed Refused where
  nil _ := rfl
  cons := takeAll_cons
  shorter _ _ h := (fit_append_singleton.1 h).1
  judged before given a hknows hbefore := by
    rw [WellFormed, fit_append_singleton, and_iff_right hbefore, takeOne]
    split
    next hpath =>
      have hgives : GivesSome a ↔ ∃ text, a.form = .list [.text text] := by
        simp only [GivesSome, Gives, hpath, true_and]
      refine (takeForm_judged given a.form).congr ?_ ?_
      · rw [hknows.isSome_iff, ← not_exists, ← hgives, forall_exists_index, imp_iff_right hpath]
        simp only [and_imp]
      · intro e
        rw [hknows.isSome_iff, ← hgives]
        constructor
        · rintro (hfault | ⟨⟨b, hb, first⟩, again, rfl⟩)
          · exact .form hpath hfault
          · exact .repeated hb first again
        · intro h
          cases h with
          | form _ wrong => exact .inl wrong
          | repeated hb first again => exact .inr ⟨⟨_, hb, first⟩, again, rfl⟩
    next hpath =>
      refine .of_ok ⟨fun h => absurd h hpath, ?_⟩ ?_
      · rintro b _ _ ⟨_, named, _⟩
        exact hpath named
      · intro e h
        cases h with
        | form named _ => exact hpath named
        | repeated _ _ again =>
            obtain ⟨_, named, _⟩ := again
            exact hpath named
  knows _ _ _ _ h htake := h.append htake

theorem says_nil : Says [] {} := by
  refine ⟨fun text => ?_, ?_⟩
  · simp
  · simp [Skips]

/-- Attributes are accepted if they are well formed, and otherwise the first fault is reported. -/
theorem ofAttributes_judged (attributes : List Attribute) :
    Judged (ofAttributes attributes) (WellFormed attributes)
      (FirstRefused WellFormed Refused attributes) :=
  stepThrough.judged_run says_nil fit_nil attributes

/-- What is given is what the attributes say. -/
theorem says_of_ofAttributes {attributes : List Attribute} {given : Compose}
    (h : ofAttributes attributes = .ok given) : Says attributes given :=
  stepThrough.knows_of_eq_ok says_nil h

end Redaction.Compose
