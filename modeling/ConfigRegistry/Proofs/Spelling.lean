import ConfigRegistry.Json.Value
import ConfigRegistry.Proofs.Reading

set_option autoImplicit false

/-!
The JSON value behind a text that a decoder accepts, in whatever way it is written. Main statements: what is passed
over is a value, and a record is read part by part from the value that its text stands for.
-/
namespace ConfigRegistry.Json
namespace Value

-- The value that stands at the front of some tokens, and what follows it. Fuel for the tokens that it takes is enough.
structure Leads (tokens : List Token) (value : Value) (rest : List Token) : Prop where
  shorter : rest.length < tokens.length
  reads : ∀ fuel, tokens.length ≤ rest.length + fuel → read fuel tokens = .ok (value, rest)

-- The same for the items of a list and the members of an object, up to their closing bracket.
structure LeadsItems (tokens : List Token) (items : List Value) (rest : List Token) : Prop where
  shorter : rest.length < tokens.length
  reads : ∀ fuel, tokens.length ≤ rest.length + fuel → readItems fuel tokens = .ok (items, rest)

structure LeadsMembers (tokens : List Token) (members : List (Bytes × Value)) (rest : List Token) : Prop where
  shorter : rest.length < tokens.length
  reads : ∀ fuel, tokens.length ≤ rest.length + fuel → readMembers fuel tokens = .ok (members, rest)

section
variable {tokens rest more : List Token} {value : Value} {items : List Value} {raw : Bytes}
    {members : List (Bytes × Value)}

theorem leads_null : Leads (.null :: rest) .null rest :=
  ⟨by simp, fun fuel _ => by cases fuel <;> rfl⟩
theorem leads_boolean (value : Bool) : Leads (.boolean value :: rest) (.boolean value) rest :=
  ⟨by simp, fun fuel _ => by cases fuel <;> rfl⟩
theorem leads_number (literal : Literal) : Leads (.number literal :: rest) (.number literal) rest :=
  ⟨by simp, fun fuel _ => by cases fuel <;> rfl⟩
theorem leads_text (raw : Bytes) : Leads (.text raw :: rest) (.text raw) rest :=
  ⟨by simp, fun fuel _ => by cases fuel <;> rfl⟩
theorem leads_no_items : Leads (.openArray :: .closeArray :: rest) (.list []) rest :=
  ⟨by simp only [List.length_cons]; omega, fun fuel _ => by cases fuel <;> rfl⟩
theorem leads_no_members : Leads (.openObject :: .closeObject :: rest) (.object []) rest :=
  ⟨by simp only [List.length_cons]; omega, fun fuel _ => by cases fuel <;> rfl⟩

theorem leads_items (leads : LeadsItems tokens items rest) : Leads (.openArray :: tokens) (.list items) rest := by
  have shorter := leads.shorter
  refine ⟨Nat.lt_succ_of_lt shorter, fun fuel enough => ?_⟩
  simp only [List.length_cons] at enough
  cases fuel with
  | zero => omega
  | succ fuel =>
      have items := leads.reads fuel (by omega)
      rw [read]
      · simp only [items, bind, Except.bind]
        rfl
      · -- An item does not begin with a closing bracket.
        rintro more rfl
        cases fuel <;> simp [readItems, read, bind, Except.bind] at items

theorem leads_members (leads : LeadsMembers tokens members rest) :
    Leads (.openObject :: tokens) (.object members) rest := by
  have shorter := leads.shorter
  refine ⟨Nat.lt_succ_of_lt shorter, fun fuel enough => ?_⟩
  simp only [List.length_cons] at enough
  cases fuel with
  | zero => omega
  | succ fuel =>
      have members := leads.reads fuel (by omega)
      rw [read]
      · simp only [members, bind, Except.bind]
        rfl
      · rintro more rfl
        cases fuel <;> simp [readMembers] at members

theorem leads_last_item (leads : Leads tokens value (.closeArray :: rest)) : LeadsItems tokens [value] rest := by
  have shorter := leads.shorter
  simp only [List.length_cons] at shorter
  refine ⟨by omega, fun fuel enough => ?_⟩
  cases fuel with
  | zero => omega
  | succ fuel =>
      have first := leads.reads fuel (by simp only [List.length_cons]; omega)
      simp only [readItems, first, bind, Except.bind]
      rfl

theorem leads_more_items (leads : Leads tokens value (.comma :: more)) (others : LeadsItems more items rest) :
    LeadsItems tokens (value :: items) rest := by
  have shorter := leads.shorter
  have fewer := others.shorter
  simp only [List.length_cons] at shorter
  refine ⟨by omega, fun fuel enough => ?_⟩
  cases fuel with
  | zero => omega
  | succ fuel =>
      have first := leads.reads fuel (by simp only [List.length_cons]; omega)
      have later := others.reads fuel (by omega)
      simp only [readItems, first, later, bind, Except.bind]
      rfl

theorem leads_last_member (raw : Bytes) (leads : Leads tokens value (.closeObject :: rest)) :
    LeadsMembers (.text raw :: .colon :: tokens) [(raw, value)] rest := by
  have shorter := leads.shorter
  simp only [List.length_cons] at shorter
  refine ⟨by simp only [List.length_cons]; omega, fun fuel enough => ?_⟩
  simp only [List.length_cons] at enough
  cases fuel with
  | zero => omega
  | succ fuel =>
      have first := leads.reads fuel (by simp only [List.length_cons]; omega)
      simp only [readMembers, first, bind, Except.bind]
      rfl

theorem leads_more_members (raw : Bytes) (leads : Leads tokens value (.comma :: more))
    (others : LeadsMembers more members rest) :
    LeadsMembers (.text raw :: .colon :: tokens) ((raw, value) :: members) rest := by
  have shorter := leads.shorter
  have fewer := others.shorter
  simp only [List.length_cons] at shorter
  refine ⟨by simp only [List.length_cons]; omega, fun fuel enough => ?_⟩
  simp only [List.length_cons] at enough
  cases fuel with
  | zero => omega
  | succ fuel =>
      have first := leads.reads fuel (by simp only [List.length_cons]; omega)
      have later := others.reads fuel (by omega)
      simp only [readMembers, first, later, bind, Except.bind]
      rfl

end

-- What is left of a list after one of its items, and of an object after one of its members.
def AfterItem (tokens : List Token) (items : List Value) (rest : List Token) : Prop :=
  (items = [] ∧ tokens = .closeArray :: rest) ∨ ∃ more, tokens = .comma :: more ∧ LeadsItems more items rest

def AfterMember (tokens : List Token) (members : List (Bytes × Value)) (rest : List Token) : Prop :=
  (members = [] ∧ tokens = .closeObject :: rest) ∨ ∃ more, tokens = .comma :: more ∧ LeadsMembers more members rest

theorem leads_list {tokens more rest : List Token} {value : Value} {items : List Value}
    (leads : Leads tokens value more) (after : AfterItem more items rest) :
    LeadsItems tokens (value :: items) rest := by
  rcases after with ⟨rfl, rfl⟩ | ⟨later, rfl, others⟩
  · exact leads_last_item leads
  · exact leads_more_items leads others

theorem leads_object {tokens more rest : List Token} {value : Value} {members : List (Bytes × Value)} (raw : Bytes)
    (leads : Leads tokens value more) (after : AfterMember more members rest) :
    LeadsMembers (.text raw :: .colon :: tokens) ((raw, value) :: members) rest := by
  rcases after with ⟨rfl, rfl⟩ | ⟨later, rfl, others⟩
  · exact leads_last_member raw leads
  · exact leads_more_members raw leads others

-- What stands at a place inside open brackets, each of which is closed in its turn.
def Ahead (rest : List Token) : Place → List Bool → List Token → Prop
  | _, [], tokens => tokens = rest
  | .value, false :: stack, tokens => ∃ items more, LeadsItems tokens items more ∧ Ahead rest .after stack more
  | .value, true :: stack, tokens =>
      ∃ value next members more, Leads tokens value next ∧ AfterMember next members more ∧ Ahead rest .after stack more
  | .first, false :: stack, tokens =>
      ∃ items more, Leads (.openArray :: tokens) (.list items) more ∧ Ahead rest .after stack more
  | .first, true :: stack, tokens =>
      ∃ members more, Leads (.openObject :: tokens) (.object members) more ∧ Ahead rest .after stack more
  | .key, true :: stack, tokens => ∃ members more, LeadsMembers tokens members more ∧ Ahead rest .after stack more
  | .colon, true :: stack, tokens => ∃ value next members more later,
      tokens = .colon :: later ∧ Leads later value next ∧ AfterMember next members more ∧ Ahead rest .after stack more
  | .after, false :: stack, tokens => ∃ items more, AfterItem tokens items more ∧ Ahead rest .after stack more
  | .after, true :: stack, tokens => ∃ members more, AfterMember tokens members more ∧ Ahead rest .after stack more
  | _, _ :: _, _ => False

theorem value_ahead {rest tokens more : List Token} {place : Place} {stack : List Bool} {value : Value}
    (inside : stack ≠ []) (item : place = .value ∨ place = .first ∧ stack.head? = some false)
    (leads : Leads tokens value more) (after : Ahead rest .after stack more) : Ahead rest place stack tokens := by
  cases stack with
  | nil => exact absurd rfl inside
  | cons bracket stack =>
      cases bracket with
      | false =>
          obtain ⟨items, later, closes, ahead⟩ := after
          have list := leads_list leads closes
          rcases item with rfl | ⟨rfl, -⟩
          · exact ⟨_, later, list, ahead⟩
          · exact ⟨_, later, leads_items list, ahead⟩
      | true =>
          obtain ⟨members, later, closes, ahead⟩ := after
          rcases item with rfl | ⟨-, other⟩
          · exact ⟨value, more, members, later, leads, closes, ahead⟩
          · exact nomatch other

theorem skip_rest_ahead {place : Place} {stack : List Bool} {tokens rest : List Token}
    (skips : skipRest place stack tokens = .ok ((), rest)) : Ahead rest place stack tokens := by
  have item (place : Place) (stack : List Bool) (inside : stack ≠ [])
      (first : ∀ tail, place = .first → stack = true :: tail → False) (after : place ≠ .after) (key : place ≠ .key)
      (colon : place ≠ .colon) : place = .value ∨ place = .first ∧ stack.head? = some false := by
    cases place with
    | value => exact .inl rfl
    | first =>
      cases stack with
      | nil => exact absurd rfl inside
      | cons bracket stack =>
        cases bracket with
        | false => exact .inr ⟨rfl, rfl⟩
        | true => exact absurd rfl (first stack rfl)
    | key => exact absurd rfl key
    | colon => exact absurd rfl colon
    | after => exact absurd rfl after
  fun_induction skipRest place stack tokens with
  | case1 place tokens =>
      cases skips
      cases place <;> rfl
  | case2 stack tokens ih => exact ⟨[], tokens, leads_no_members, ih skips⟩
  | case3 stack tokens ih => exact ⟨[], tokens, leads_no_items, ih skips⟩
  | case4 stack tokens ih => exact ⟨[], tokens, .inl ⟨rfl, rfl⟩, ih skips⟩
  | case5 stack tokens ih => exact ⟨[], tokens, .inl ⟨rfl, rfl⟩, ih skips⟩
  | case6 stack tokens ih =>
      obtain ⟨members, more, leads, ahead⟩ := ih skips
      exact ⟨members, more, .inr ⟨tokens, rfl, leads⟩, ahead⟩
  | case7 stack tokens ih =>
      obtain ⟨items, more, leads, ahead⟩ := ih skips
      exact ⟨items, more, .inr ⟨tokens, rfl, leads⟩, ahead⟩
  | case8 stack raw tokens ih =>
      obtain ⟨value, next, members, more, later, rfl, leads, closes, ahead⟩ := ih skips
      exact ⟨_, more, leads_members (leads_object raw leads closes), ahead⟩
  | case9 stack raw tokens ih =>
      obtain ⟨value, next, members, more, later, rfl, leads, closes, ahead⟩ := ih skips
      exact ⟨_, more, leads_object raw leads closes, ahead⟩
  | case10 stack tokens ih =>
      obtain ⟨value, next, members, more, leads, closes, ahead⟩ := ih skips
      exact ⟨value, next, members, more, tokens, rfl, leads, closes, ahead⟩
  | case15 place stack tokens inside first after key colon ih =>
      obtain ⟨members, more, leads, ahead⟩ := ih skips
      exact value_ahead inside (item place stack inside first after key colon) leads ahead
  | case16 place stack tokens inside first after key colon ih =>
      obtain ⟨items, more, leads, ahead⟩ := ih skips
      exact value_ahead inside (item place stack inside first after key colon) leads ahead
  | case17 place stack tokens inside first after key colon ih =>
      exact value_ahead inside (item place stack inside first after key colon) leads_null (ih skips)
  | case18 place stack value tokens inside first after key colon ih =>
      exact value_ahead inside (item place stack inside first after key colon) (leads_boolean value) (ih skips)
  | case19 place stack literal tokens inside first after key colon ih =>
      exact value_ahead inside (item place stack inside first after key colon) (leads_number literal) (ih skips)
  | case20 place stack raw tokens inside first _ after key colon ih =>
      exact value_ahead inside (item place stack inside first after key colon) (leads_text raw) (ih skips)
  | case11 | case12 | case13 | case14 | case21 => exact nomatch skips

theorem skip_leads {tokens rest : List Token} (skips : skip tokens = .ok ((), rest)) :
    ∃ value, Leads tokens value rest := by
  cases tokens with
  | nil => exact nomatch skips
  | cons token tokens =>
      cases token with
      | openObject =>
          obtain ⟨members, more, leads, rfl⟩ := skip_rest_ahead (show skipRest .first [true] tokens = _ from skips)
          exact ⟨_, leads⟩
      | openArray =>
          obtain ⟨items, more, leads, rfl⟩ := skip_rest_ahead (show skipRest .first [false] tokens = _ from skips)
          exact ⟨_, leads⟩
      | null => cases skips; exact ⟨_, leads_null⟩
      | boolean value => cases skips; exact ⟨_, leads_boolean value⟩
      | number literal => cases skips; exact ⟨_, leads_number literal⟩
      | text raw => cases skips; exact ⟨_, leads_text raw⟩
      | closeObject | closeArray | colon | comma | broken => exact nomatch skips

-- The named parts of a value: the members of an object, or the items of a list by the names that stand for their
-- positions.
def parts (names : List String) : Value → List (String × Value)
  | object members => members.filterMap fun member => (readText? member.1).map fun name => (name, member.2)
  | list items => names.zip items
  | _ => []

-- Of parts with the same name the last one counts.
def last? (name : String) : List (String × Value) → Option Value
  | [] => none
  | (other, value) :: rest => (last? name rest).or (if other = name then some value else none)

section Records

variable {δ : Type} {layout : Layout δ} {takes : δ → String → Value → δ → Prop} {draft final : δ}
  {tokens rest : List Token}

-- The parts of a value fill a draft one after the other.
inductive Takings (takes : δ → String → Value → δ → Prop) : δ → List (String × Value) → δ → Prop where
  | nil {draft : δ} : Takings takes draft [] draft
  | cons {draft next final : δ} {name : String} {value : Value} {others : List (String × Value)}
      (first : takes draft name value next) (later : Takings takes next others final) :
      Takings takes draft ((name, value) :: others) final

-- Each field takes one value, and what belongs to no field changes nothing.
structure Filled (layout : Layout δ) (takes : δ → String → Value → δ → Prop) : Prop where
  field : ∀ field ∈ layout.fields, ∀ draft tokens next rest, field.read draft tokens = .ok (next, rest) →
    ∃ value, Leads tokens value rest ∧ takes draft field.name value next
  other : ∀ draft name value, (∀ field ∈ layout.fields, field.name ≠ name) → takes draft name value draft

theorem under_ok {α : Type} {decoder : Decoder α} {segment : Segment} {result : α × List Token}
    (read : decoder.under segment tokens = .ok result) : decoder tokens = .ok result := by
  rw [Decoder.under] at read
  cases found : decoder tokens with
  | ok found' => rwa [found] at read
  | error failure =>
      rw [found] at read
      cases read

theorem map_ok {α β : Type} {decoder : Decoder α} {f : α → β} {result : β}
    (read : Decoder.map f decoder tokens = .ok (result, rest)) :
    ∃ value, decoder tokens = .ok (value, rest) ∧ result = f value := by
  rw [Decoder.map] at read
  cases found : decoder tokens with
  | ok pair =>
      rw [found] at read
      cases read
      exact ⟨_, rfl, rfl⟩
  | error failure =>
      rw [found] at read
      cases read

theorem bind_ok {ε α β : Type} {first : Except ε α} {next : α → Except ε β} {result : β}
    (read : first >>= next = .ok result) : ∃ value, first = .ok value ∧ next value = .ok result := by
  cases first with
  | ok value => exact ⟨value, rfl, read⟩
  | error failure => exact nomatch read

theorem member_takes (filled : Filled layout takes) {next : δ} (read : layout.member draft tokens = .ok (next, rest)) :
    ∃ raw name value more, tokens = .text raw :: .colon :: more ∧ readText? raw = some name ∧ Leads more value rest ∧
      takes draft name value next := by
  unfold Layout.member at read
  split at read
  · rename_i raw tokens
    split at read
    · exact nomatch read
    · rename_i name named
      split at read
      · rename_i more absent
        obtain ⟨_, skips, rfl⟩ := map_ok read
        obtain ⟨value, leads⟩ := skip_leads skips
        refine ⟨raw, name, value, more, rfl, named, leads, filled.other _ name value fun field among same => ?_⟩
        exact absurd (List.find?_eq_none.mp absent field among) (by simp [same])
      · exact nomatch read
      · rename_i field found
        split at read
        · exact nomatch read
        · split at read
          · rename_i more
            obtain ⟨value, leads, taken⟩ :=
              filled.field field (List.mem_of_find?_eq_some found) _ _ _ _ (under_ok read)
            have same : field.name = name := by simpa using List.find?_some found
            exact ⟨raw, name, value, more, rfl, named, leads, same ▸ taken⟩
          · exact nomatch read
  · exact nomatch read

theorem more_members_take (filled : Filled layout takes) {fuel : Nat}
    (read : layout.moreMembers fuel draft tokens = .ok (final, rest)) :
    ∃ members, AfterMember tokens members rest ∧ Takings takes draft ((object members).parts []) final := by
  fun_induction Layout.moreMembers layout fuel draft tokens with
  | case1 fuel draft tokens =>
      cases read
      exact ⟨[], .inl ⟨rfl, rfl⟩, .nil⟩
  | case2 fuel draft tokens ih =>
      obtain ⟨⟨next, after⟩, first, others⟩ := bind_ok read
      obtain ⟨raw, name, value, more, rfl, named, leads, taken⟩ := member_takes filled first
      obtain ⟨members, closes, takings⟩ := ih next after others
      refine ⟨(raw, value) :: members, .inr ⟨_, rfl, leads_object raw leads closes⟩, ?_⟩
      simpa [parts, named] using Takings.cons taken takings
  | case3 => simp at read

theorem elements_take {fields : List (Field δ)} {position : Nat}
    (filled : ∀ field ∈ fields, ∀ draft tokens next rest, field.read draft tokens = .ok (next, rest) →
      ∃ value, Leads tokens value rest ∧ takes draft field.name value next)
    (read : elements fields position draft tokens = .ok (final, rest)) :
    ∃ items, (position = 0 → Leads (.openArray :: tokens) (.list items) rest) ∧
      (0 < position → AfterItem tokens items rest) ∧
        Takings takes draft ((list items).parts (fields.map Field.name)) final := by
  fun_induction elements fields position draft tokens with
  | case1 fields position draft tokens =>
      cases read
      exact ⟨[], fun _ => leads_no_items, fun _ => .inl ⟨rfl, rfl⟩, by simpa [parts] using .nil⟩
  | case2 field fields draft tokens _ ih =>
      obtain ⟨⟨next, after⟩, first, others⟩ := bind_ok read
      obtain ⟨value, leads, taken⟩ := filled field List.mem_cons_self _ _ _ _ (under_ok first)
      obtain ⟨items, -, closes, takings⟩ :=
        ih next after (fun other among => filled other (List.mem_cons_of_mem _ among)) others
      refine ⟨value :: items, fun _ => leads_items (leads_list leads (closes Nat.one_pos)), fun same => ?_, ?_⟩
      · exact absurd same (Nat.lt_irrefl 0)
      · exact .cons taken takings
  | case3 field fields position draft tokens ih =>
      obtain ⟨⟨next, after⟩, first, others⟩ := bind_ok read
      obtain ⟨value, leads, taken⟩ := filled field List.mem_cons_self _ _ _ _ (under_ok first)
      obtain ⟨items, -, closes, takings⟩ :=
        ih next after (fun other among => filled other (List.mem_cons_of_mem _ among)) others
      refine ⟨value :: items, fun same => absurd same (Nat.succ_ne_zero _), fun _ => .inr ⟨tokens, rfl, ?_⟩,
        .cons taken takings⟩
      exact leads_list leads (closes (Nat.succ_pos _))
  | case4 => simp at read

theorem of_object_ok {found result : δ × List Token} (read : layout.ofObject found = .ok result) :
    result = found ∧ layout.lacking found.1 = none := by
  rw [Layout.ofObject] at read
  split at read
  · rename_i complete
    exact ⟨(Except.ok.inj read).symm, complete⟩
  · cases read

theorem of_array_ok {found result : δ × List Token} (read : layout.ofArray found = .ok result) :
    result = found ∧ layout.lacking found.1 = none := by
  rw [Layout.ofArray] at read
  split at read
  · rename_i complete
    exact ⟨(Except.ok.inj read).symm, complete⟩
  · exact nomatch read

theorem unexpected_fails {α : Type} {expected : String} {result : α} :
    unexpected expected tokens ≠ .ok result := by
  unfold unexpected
  split
  · exact fun same => nomatch same
  · split <;> exact fun same => nomatch same

theorem read_takes (filled : Filled layout takes) {blank : δ} (read : layout.read blank tokens = .ok (final, rest)) :
    layout.lacking final = none ∧
      ∃ value, Leads tokens value rest ∧ Takings takes blank (value.parts (layout.fields.map Field.name)) final := by
  unfold Layout.read at read
  split at read
  · obtain ⟨same, complete⟩ := of_object_ok read
    cases same
    exact ⟨complete, object [], leads_no_members, .nil⟩
  · obtain ⟨⟨next, more⟩, first, read⟩ := bind_ok read
    obtain ⟨⟨last, after⟩, others, read⟩ := bind_ok read
    obtain ⟨same, complete⟩ := of_object_ok read
    cases same
    obtain ⟨raw, name, value, more, rfl, named, leads, taken⟩ := member_takes filled first
    obtain ⟨members, closes, takings⟩ := more_members_take filled others
    refine ⟨complete, object ((raw, value) :: members), leads_members (leads_object raw leads closes), ?_⟩
    simpa [parts, named] using Takings.cons taken takings
  · obtain ⟨⟨last, after⟩, filling, read⟩ := bind_ok read
    obtain ⟨same, complete⟩ := of_array_ok read
    cases same
    obtain ⟨items, leads, -, takings⟩ := elements_take filled.field filling
    exact ⟨complete, list items, leads rfl, takings⟩
  · exact absurd read unexpected_fails

theorem parse_leads {bytes : Bytes} {value : Value} (leads : Leads (scan bytes) value []) :
    parse? bytes = some value := by
  have read := leads.reads (scan bytes).length (Nat.le_add_left _ _)
  simp only [parse?, Decoder.whole, read, bind, Except.bind]
  rfl

end Records
end Value
end ConfigRegistry.Json
