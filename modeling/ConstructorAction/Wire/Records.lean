import ConstructorAction.Document.Position
import ConstructorAction.Settings.Basic
import ConstructorAction.Source.Declaration
import ConstructorAction.Wire.Codec

namespace ConstructorAction.Wire

open ConstructorAction.Document ConstructorAction.Settings ConstructorAction.Source

/-!
The written form of positions, edits, declarations and settings.
-/

instance : Codec Position where
  encode position :=
    .object [("line", encode position.line), ("character", encode position.character)]
  decode := decodeRecord "Position" 2 (Position.mk <$> field "line" 0 <*> field "character" 1)

instance : Codec Range where
  encode range := .object [("start", encode range.start), ("end", encode range.stop)]
  decode := decodeRecord "Range" 2 (Range.mk <$> field "start" 0 <*> field "end" 1)

instance : Codec TextEdit where
  encode edit := .object [("range", encode edit.range), ("newText", encode edit.newText)]
  decode := decodeRecord "TextEdit" 2 (TextEdit.mk <$> field "range" 0 <*> field "newText" 1)

instance : Codec TypeDeclaration where
  encode type := .object
    [("typeName", encode type.typeName), ("startLine", encode type.startLine),
      ("endLine", encode type.endLine)]
  decode := decodeRecord "TypeDeclaration" 3
    (TypeDeclaration.mk <$> field "typeName" 0 <*> field "startLine" 1 <*> field "endLine" 2)

instance : Codec MemberKind where
  encode kind := .string kind.name
  decode := decodeName MemberKind.names

instance : Codec MemberDeclaration where
  encode member := .object
    [("owningType", encode member.owningType), ("declaredType", encode member.declaredType),
      ("name", encode member.name), ("line", encode member.line), ("kind", encode member.kind)]
  decode := decodeRecord "MemberDeclaration" 5
    (MemberDeclaration.mk <$> field "owningType" 0 <*> field "declaredType" 1 <*> field "name" 2
      <*> field "line" 3 <*> field "kind" 4)

instance : Codec AssignmentRule where
  encode rule := .string rule.name
  decode := decodeName AssignmentRule.names

instance : Codec InsertionRule where
  encode rule := .string rule.name
  decode := decodeName InsertionRule.names

instance : Codec IndentStyle where
  encode style := .string style.name
  decode := decodeName IndentStyle.names

instance : Codec Strategy where
  encode strategy := .object
    [("assignment", encode strategy.assignment), ("insertion", encode strategy.insertion),
      ("indent", encode strategy.indent)]
  decode := decodeRecord "CtorStrategy" 3
    (Strategy.mk <$> field "assignment" 0 <*> field "insertion" 1 <*> field "indent" 2)

instance : Codec Settings where
  encode settings := .object
    [("tab_size", encode settings.tabSize),
      ("reformat_after_change", encode settings.reformatAfterChange),
      ("strategy", encode settings.strategy), ("formatter", encode settings.formatter)]
  decode := decodeRecord "CtorConfig" 4
    (Settings.mk <$> field "tab_size" 0 <*> field "reformat_after_change" 1
      <*> field "strategy" 2 <*> optionalField "formatter" 3)

end ConstructorAction.Wire
