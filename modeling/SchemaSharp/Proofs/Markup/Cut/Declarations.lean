import SchemaSharp.Proofs.Markup.Cut.Tokens

/-!
Document types in a text that is cut off. A declaration has its own end, so that it is read alike in
both texts or missed in the short one; the budgets of the two may differ.
-/

namespace SchemaSharp.Markup.Cut

variable {cut : Cut}

theorem firm_expectClose : cut.Firm expectClose expectClose := by
  unfold expectClose
  refine firm_token fun token => ?_
  split
  · exact tells_pure rfl
  · exact (firm_malformed _).tells

theorem hungry_unlabelledName : cut.Hungry unlabelledName unlabelledName := by
  unfold unlabelledName
  refine hungry_token.followed fun token => ?_
  split
  · exact (steady_pure _).loose
  · exact (firm_malformed _).loose

theorem hungry_expectLiteral : cut.Hungry expectLiteral expectLiteral := by
  unfold expectLiteral
  refine hungry_token.followed fun token => ?_
  split
  · exact (steady_pure _).loose
  · exact (firm_malformed _).loose

theorem hungry_publicLiteral : cut.Hungry publicLiteral publicLiteral := by
  unfold publicLiteral
  refine hungry_expectLiteral.followed fun text => ?_
  split
  · exact (steady_pure _).loose
  · exact (firm_malformed _).loose

theorem steady_checkEntityText (budget : Nat) (text : List Char) :
    cut.Steady (checkEntityText budget text) (checkEntityText budget text) := by
  induction budget generalizing text with
  | zero => exact (firm_malformed _).tells
  | succ budget ih =>
      cases text with
      | nil => exact steady_pure _
      | cons c rest =>
          rw [checkEntityText]
          split
          · exact (firm_malformed _).tells
          · split
            · split
              · exact ih _
              · exact (firm_malformed _).tells
            · exact ih _

theorem hungry_externalId (keyword : String) :
    cut.Hungry (externalId keyword) (externalId keyword) := by
  unfold externalId
  split
  · exact hungry_expectLiteral.followed fun _ => (steady_pure _).loose
  · refine hungry_publicLiteral.hungry fun _ => ?_
    exact hungry_expectLiteral.followed fun _ => (steady_pure _).loose
  · exact (firm_malformed _).tells

theorem hungry_entityName : cut.Hungry entityName entityName := by
  unfold entityName
  refine hungry_token.followed fun token => ?_
  split
  · exact (hungry_unlabelledName.followed fun _ => (steady_pure _).loose).loose
  · exact (steady_pure _).loose
  · exact (firm_malformed _).loose

theorem steady_refusal (spared : Bool) (name : String) (systemId publicId : Option String) :
    cut.Steady
      (if spared then pure () else throw (.entityDeclared name systemId publicId))
      (if spared then pure () else throw (.entityDeclared name systemId publicId)) := by
  split
  · exact steady_pure _
  · refine { fault := ?_, agree := ?_, spent := ?_ }
    · intro text fault failed
      cases failed
      rfl
    · intro _ _ _ _ _ _ _ here
      cases here
    · intro _ _ _ _ here
      cases here

theorem firm_entityRest (doctype : Doctype) (name : String) (general : Bool) :
    cut.Firm (entityRest doctype name general) (entityRest doctype name general) := by
  unfold entityRest
  refine tells_token.firm fun token => ?_
  split
  · refine (steady_refusal _ _ _ _).firm fun _ => ?_
    split
    · exact (steady_checkEntityText _ _).firm fun _ => firm_expectClose
    · exact firm_expectClose
  · refine (hungry_externalId _).firm fun ids => ?_
    refine firm_token fun token => ?_
    split
    · exact (steady_refusal _ _ _ _).weaken (fun _ => id) (fun _ _ => rfl)
    · cases general
      · exact (firm_fails (fun _ => rfl) _).tells
      · refine (hungry_unlabelledName.firm fun _ => ?_).tells
        exact (steady_refusal _ _ _ _).firm fun _ => firm_expectClose
    · exact (firm_malformed _).tells
  · exact firm_malformed _

theorem firm_entityDeclaration (doctype : Doctype) :
    cut.Firm (entityDeclaration doctype) (entityDeclaration doctype) :=
  hungry_entityName.firm fun _ => firm_entityRest _ _ _

theorem firm_notationDeclaration : cut.Firm notationDeclaration notationDeclaration := by
  unfold notationDeclaration
  refine hungry_unlabelledName.firm fun _ => hungry_unlabelledName.firm fun keyword => ?_
  split
  · exact hungry_expectLiteral.firm fun _ => firm_expectClose
  · refine hungry_publicLiteral.firm fun _ => firm_token fun token => ?_
    split
    · exact tells_pure rfl
    · exact firm_expectClose.tells
    · exact (firm_malformed _).tells
  · exact firm_malformed _

/-! ## Attributes -/

theorem hungry_choices (allowed : Token → Bool) (budget budgetToo : Nat) :
    cut.Hungry (choices allowed budget) (choices allowed budgetToo) := by
  refine tells_of_budgets (fun (_ : Unit) budget => choices allowed budget) (fun _ _ => rfl) ?_ ()
    budget budgetToo
  intro _ budget ih budgetToo
  unfold choices
  refine hungry_token.hungry fun first => ?_
  split
  · exact (firm_fails (fun _ => rfl) _).tells
  · refine hungry_token.followed fun token => ?_
    split
    · exact (steady_pure _).loose
    · exact (ih () _).loose
    · exact (firm_malformed _).loose

theorem hungry_attributeType : cut.Hungry attributeType attributeType := by
  unfold attributeType
  refine tells_get fun text textToo => hungry_token.followed fun token => ?_
  split
  · exact ((hungry_choices _ _ _).followed fun _ => (steady_pure _).loose).loose
  · split
    · exact (steady_pure _).loose
    · split
      · exact (steady_pure _).loose
      · split
        · exact (firm_fails (fun _ => rfl) _).loose
        · refine hungry_token.loose.followed fun token => ?_
          split
          · exact ((hungry_choices _ _ _).followed fun _ => (steady_pure _).loose).loose
          · exact (firm_malformed _).loose
  · exact (firm_malformed _).loose

theorem steady_defaultValue (doctype : Doctype) (verbatim : Bool) (text : List Char) :
    cut.Steady (defaultValue doctype verbatim text) (defaultValue doctype verbatim text) := by
  unfold defaultValue
  split
  · exact steady_pure _
  · split
    · split
      · exact steady_pure _
      · exact (firm_malformed _).tells
    · exact (firm_malformed _).tells

theorem hungry_attributeDefault (doctype : Doctype) (verbatim : Bool) :
    cut.Hungry (attributeDefault doctype verbatim) (attributeDefault doctype verbatim) := by
  unfold attributeDefault
  refine hungry_token.followed fun token => ?_
  split
  · exact (steady_pure _).loose
  · exact (steady_pure _).loose
  · exact (hungry_expectLiteral.followed fun _ => (steady_defaultValue _ _ _).loose).loose
  · exact (steady_defaultValue _ _ _).loose
  · exact (firm_malformed _).loose

theorem firm_attributeDeclarations (element : RawName) (budget budgetToo : Nat) (doctype : Doctype) :
    cut.Firm (attributeDeclarations element budget doctype)
      (attributeDeclarations element budgetToo doctype) := by
  refine tells_of_budgets (fun doctype budget => attributeDeclarations element budget doctype)
    (fun _ _ => rfl) ?_ doctype budget budgetToo
  intro doctype budget ih budgetToo
  unfold attributeDeclarations
  refine firm_token fun token => ?_
  split
  · exact tells_pure rfl
  · refine (hungry_attributeType.firm fun verbatim => ?_).tells
    exact (hungry_attributeDefault _ _).firm fun value => ih _ _
  · exact (firm_malformed _).tells

/-! ## Content models -/

theorem firm_contentModel (budget budgetToo : Nat) (connectors : List (Option Char)) (item : Bool) :
    cut.Firm (contentModel budget connectors item) (contentModel budgetToo connectors item) := by
  refine tells_of_budgets (fun (i : List (Option Char) × Bool) budget => contentModel budget i.1 i.2)
    (fun _ _ => rfl) ?_ (connectors, item) budget budgetToo
  rintro ⟨connectors, item⟩ budget ih budgetToo
  rcases connectors with _ | ⟨connector, outer⟩
  · exact firm_expectClose
  · cases item with
    | false =>
        unfold contentModel
        refine tells_token.firm fun token => ?_
        split
        · exact ih (none :: connector :: outer, false) _
        · exact ih (connector :: outer, true) _
        · exact ih (connector :: outer, true) _
        · exact firm_malformed _
    | true =>
        unfold contentModel
        refine tells_token.firm fun token => ?_
        split
        · exact ih (outer, true) _
        · exact ih (outer, true) _
        · split
          · exact firm_fails (fun _ => rfl) _
          · exact ih (some ',' :: outer, false) _
        · split
          · exact firm_fails (fun _ => rfl) _
          · exact ih (some '|' :: outer, false) _
        · exact firm_malformed _

theorem firm_mixedContent (first : Bool) (budget budgetToo : Nat) :
    cut.Firm (mixedContent first budget) (mixedContent first budgetToo) := by
  refine tells_of_budgets mixedContent (fun _ _ => rfl) ?_ first budget budgetToo
  intro first budget ih budgetToo
  unfold mixedContent
  refine tells_token.firm fun token => ?_
  split
  · split
    · exact firm_expectClose
    · exact firm_malformed _
  · exact firm_expectClose
  · refine tells_token.firm fun token => ?_
    split
    · exact ih _ _
    · exact firm_malformed _
  · exact firm_malformed _

theorem hungry_expectName : cut.Hungry expectName expectName := by
  unfold expectName
  refine hungry_token.followed fun token => ?_
  split
  · exact (steady_pure _).loose
  · exact (firm_malformed _).loose

theorem firm_elementDeclaration : cut.Firm elementDeclaration elementDeclaration := by
  unfold elementDeclaration
  refine tells_get fun text textToo => hungry_expectName.firm fun _ => ?_
  refine tells_token.firm fun token => ?_
  split
  · exact firm_expectClose
  · exact firm_expectClose
  · refine tells_token.firm fun token => ?_
    split
    · exact firm_mixedContent _ _ _
    · exact firm_contentModel _ _ _ _
    · exact firm_contentModel _ _ _ _
    · exact firm_contentModel _ _ _ _
    · exact firm_malformed _
  · exact firm_malformed _

/-! ## The document type -/

theorem firm_internalDeclarations (budget budgetToo : Nat) (doctype : Doctype) :
    cut.Firm (internalDeclarations budget doctype) (internalDeclarations budgetToo doctype) := by
  refine tells_of_budgets (fun doctype budget => internalDeclarations budget doctype)
    (fun _ _ => rfl) ?_ doctype budget budgetToo
  intro doctype budget ih budgetToo
  unfold internalDeclarations
  refine firm_token fun token => ?_
  split
  · exact tells_pure rfl
  · exact Firm.tells (ih _ _)
  · exact Firm.tells (ih _ _)
  · exact Firm.tells (ih _ _)
  · exact ((firm_entityDeclaration _).loose.firm fun _ => ih _ _).tells
  · exact (firm_notationDeclaration.loose.firm fun _ => ih _ _).tells
  · exact (firm_elementDeclaration.loose.firm fun _ => ih _ _).tells
  · refine (tells_token.firm fun token => ?_).tells
    split
    · exact (firm_attributeDeclarations _ _ _ _).loose.firm fun _ => ih _ _
    · exact firm_malformed _
  · exact (firm_malformed _).tells

theorem tells_doctypeBody (budget budgetToo : Nat) (doctype : Doctype) (next : Token) :
    cut.Tells (fun _ => False) (fun _ => next.isOpen = false) (doctypeBody budget doctype next)
      (doctypeBody budgetToo doctype next) := by
  unfold doctypeBody
  split
  · exact tells_pure rfl
  · refine Firm.tells ((firm_internalDeclarations _ _ _).loose.firm fun doctype => ?_)
    exact firm_expectClose.followed fun _ => steady_pure _
  · exact (firm_malformed _).tells

theorem firm_doctypeRest (doctype : Doctype) :
    cut.Firm (doctypeRest doctype) (doctypeRest doctype) := by
  unfold doctypeRest
  refine tells_get fun text textToo => hungry_expectName.firm fun _ => firm_token fun next => ?_
  split
  · refine Firm.tells ((hungry_externalId _).firm fun _ => firm_token fun next => ?_)
    exact tells_doctypeBody _ _ _ _
  · exact tells_doctypeBody _ _ _ _

end SchemaSharp.Markup.Cut
