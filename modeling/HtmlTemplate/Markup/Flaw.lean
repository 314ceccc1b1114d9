/-!
The errors of markup that a tokenizer reports, and the codes by which the HTML standard names them.
-/

set_option autoImplicit false

namespace HtmlTemplate.Markup

inductive Flaw where
  | abruptClosingOfEmptyComment
  | abruptDoctypePublicIdentifier
  | abruptDoctypeSystemIdentifier
  | absenceOfDigitsInNumericCharacterReference
  | cdataInHtmlContent
  | characterReferenceOutsideUnicodeRange
  | controlCharacterInInputStream
  | controlCharacterReference
  | duplicateAttribute
  | endTagWithAttributes
  | endTagWithTrailingSolidus
  | eofBeforeTagName
  | eofInComment
  | eofInDoctype
  | eofInScriptHtmlCommentLikeText
  | eofInTag
  | incorrectlyClosedComment
  | incorrectlyOpenedComment
  | invalidCharacterSequenceAfterDoctypeName
  | invalidFirstCharacterOfTagName
  | missingAttributeValue
  | missingDoctypeName
  | missingDoctypePublicIdentifier
  | missingDoctypeSystemIdentifier
  | missingEndTagName
  | missingQuoteBeforeDoctypePublicIdentifier
  | missingQuoteBeforeDoctypeSystemIdentifier
  | missingSemicolonAfterCharacterReference
  | missingWhitespaceAfterDoctypePublicKeyword
  | missingWhitespaceAfterDoctypeSystemKeyword
  | missingWhitespaceBeforeDoctypeName
  | missingWhitespaceBetweenAttributes
  | missingWhitespaceBetweenDoctypePublicAndSystemIdentifiers
  | nestedComment
  | noncharacterCharacterReference
  | noncharacterInInputStream
  | nullCharacterReference
  | surrogateCharacterReference
  | unexpectedCharacterAfterDoctypeSystemIdentifier
  | unexpectedCharacterInAttributeName
  | unexpectedCharacterInUnquotedAttributeValue
  | unexpectedEqualsSignBeforeAttributeName
  | unexpectedNullCharacter
  | unexpectedQuestionMarkInsteadOfTagName
  | unexpectedSolidusInTag
  | unknownNamedCharacterReference
deriving DecidableEq, Repr

def Flaw.code : Flaw → String
  | .abruptClosingOfEmptyComment => "abrupt-closing-of-empty-comment"
  | .abruptDoctypePublicIdentifier => "abrupt-doctype-public-identifier"
  | .abruptDoctypeSystemIdentifier => "abrupt-doctype-system-identifier"
  | .absenceOfDigitsInNumericCharacterReference =>
    "absence-of-digits-in-numeric-character-reference"
  | .cdataInHtmlContent => "cdata-in-html-content"
  | .characterReferenceOutsideUnicodeRange => "character-reference-outside-unicode-range"
  | .controlCharacterInInputStream => "control-character-in-input-stream"
  | .controlCharacterReference => "control-character-reference"
  | .duplicateAttribute => "duplicate-attribute"
  | .endTagWithAttributes => "end-tag-with-attributes"
  | .endTagWithTrailingSolidus => "end-tag-with-trailing-solidus"
  | .eofBeforeTagName => "eof-before-tag-name"
  | .eofInComment => "eof-in-comment"
  | .eofInDoctype => "eof-in-doctype"
  | .eofInScriptHtmlCommentLikeText => "eof-in-script-html-comment-like-text"
  | .eofInTag => "eof-in-tag"
  | .incorrectlyClosedComment => "incorrectly-closed-comment"
  | .incorrectlyOpenedComment => "incorrectly-opened-comment"
  | .invalidCharacterSequenceAfterDoctypeName => "invalid-character-sequence-after-doctype-name"
  | .invalidFirstCharacterOfTagName => "invalid-first-character-of-tag-name"
  | .missingAttributeValue => "missing-attribute-value"
  | .missingDoctypeName => "missing-doctype-name"
  | .missingDoctypePublicIdentifier => "missing-doctype-public-identifier"
  | .missingDoctypeSystemIdentifier => "missing-doctype-system-identifier"
  | .missingEndTagName => "missing-end-tag-name"
  | .missingQuoteBeforeDoctypePublicIdentifier => "missing-quote-before-doctype-public-identifier"
  | .missingQuoteBeforeDoctypeSystemIdentifier => "missing-quote-before-doctype-system-identifier"
  | .missingSemicolonAfterCharacterReference => "missing-semicolon-after-character-reference"
  | .missingWhitespaceAfterDoctypePublicKeyword => "missing-whitespace-after-doctype-public-keyword"
  | .missingWhitespaceAfterDoctypeSystemKeyword => "missing-whitespace-after-doctype-system-keyword"
  | .missingWhitespaceBeforeDoctypeName => "missing-whitespace-before-doctype-name"
  | .missingWhitespaceBetweenAttributes => "missing-whitespace-between-attributes"
  | .missingWhitespaceBetweenDoctypePublicAndSystemIdentifiers =>
    "missing-whitespace-between-doctype-public-and-system-identifiers"
  | .nestedComment => "nested-comment"
  | .noncharacterCharacterReference => "noncharacter-character-reference"
  | .noncharacterInInputStream => "noncharacter-in-input-stream"
  | .nullCharacterReference => "null-character-reference"
  | .surrogateCharacterReference => "surrogate-character-reference"
  | .unexpectedCharacterAfterDoctypeSystemIdentifier =>
    "unexpected-character-after-doctype-system-identifier"
  | .unexpectedCharacterInAttributeName => "unexpected-character-in-attribute-name"
  | .unexpectedCharacterInUnquotedAttributeValue =>
    "unexpected-character-in-unquoted-attribute-value"
  | .unexpectedEqualsSignBeforeAttributeName => "unexpected-equals-sign-before-attribute-name"
  | .unexpectedNullCharacter => "unexpected-null-character"
  | .unexpectedQuestionMarkInsteadOfTagName => "unexpected-question-mark-instead-of-tag-name"
  | .unexpectedSolidusInTag => "unexpected-solidus-in-tag"
  | .unknownNamedCharacterReference => "unknown-named-character-reference"

end HtmlTemplate.Markup
