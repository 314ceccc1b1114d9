import HtmlTemplate.Markup.Scan

set_option autoImplicit false

namespace HtmlTemplate.Markup.Comment

def finish (sink : Sink) (text : String) : Scan :=
  .go .data (sink.emit (.comment text))

def onBogus (sink : Sink) (text : String) (c : Char) : Scan :=
  if c = '>' then finish sink text
  else if c = '\x00' then
    .go (.comment .bogus (text.push replacement)) (sink.report .unexpectedNullCharacter)
  else .go (.comment .bogus (text.push c)) sink

def onInside (sink : Sink) (text : String) (c : Char) : Scan :=
  if c = '<' then .go (.comment .less (text.push c)) sink
  else if c = '-' then .go (.comment .endDash text) sink
  else if c = '\x00' then
    .go (.comment .inside (text.push replacement)) (sink.report .unexpectedNullCharacter)
  else .go (.comment .inside (text.push c)) sink

def onStart (sink : Sink) (text : String) (c : Char) : Scan :=
  if c = '-' then .go (.comment .startDash text) sink
  else if c = '>' then finish (sink.report .abruptClosingOfEmptyComment) text
  else onInside sink text c

def onStartDash (sink : Sink) (text : String) (c : Char) : Scan :=
  if c = '-' then .go (.comment .ending text) sink
  else if c = '>' then finish (sink.report .abruptClosingOfEmptyComment) text
  else onInside sink (text.push '-') c

def onEndDash (sink : Sink) (text : String) (c : Char) : Scan :=
  if c = '-' then .go (.comment .ending text) sink
  else onInside sink (text.push '-') c

def onEnding (sink : Sink) (text : String) (c : Char) : Scan :=
  if c = '>' then finish sink text
  else if c = '!' then .go (.comment .endBang text) sink
  else if c = '-' then .go (.comment .ending (text.push '-')) sink
  else onInside sink (text ++ "--") c

def onEndBang (sink : Sink) (text : String) (c : Char) : Scan :=
  if c = '-' then .go (.comment .endDash (text ++ "--!")) sink
  else if c = '>' then finish (sink.report .incorrectlyClosedComment) text
  else onInside sink (text ++ "--!") c

def onLess (sink : Sink) (text : String) (c : Char) : Scan :=
  if c = '!' then .go (.comment .lessBang (text.push c)) sink
  else if c = '<' then .go (.comment .less (text.push c)) sink
  else onInside sink text c

def onLessBang (sink : Sink) (text : String) (c : Char) : Scan :=
  if c = '-' then .go (.comment .lessBangDash text) sink else onInside sink text c

def onLessBangDash (sink : Sink) (text : String) (c : Char) : Scan :=
  if c = '-' then .go (.comment .lessBangDashDash text) sink else onEndDash sink text c

def onLessBangDashDash (sink : Sink) (text : String) (c : Char) : Scan :=
  if c = '>' then onEnding sink text c else onEnding (sink.report .nestedComment) text c

def step (state : CommentState) (sink : Sink) (text : String) (c : Char) : Scan :=
  match state with
  | .start => onStart sink text c
  | .startDash => onStartDash sink text c
  | .inside => onInside sink text c
  | .less => onLess sink text c
  | .lessBang => onLessBang sink text c
  | .lessBangDash => onLessBangDash sink text c
  | .lessBangDashDash => onLessBangDashDash sink text c
  | .endDash => onEndDash sink text c
  | .ending => onEnding sink text c
  | .endBang => onEndBang sink text c
  | .bogus => onBogus sink text c

def stop (state : CommentState) (sink : Sink) (text : String) : Sink :=
  match state with
  | .bogus => sink.emit (.comment text)
  | _ => (sink.report .eofInComment).emit (.comment text)

end HtmlTemplate.Markup.Comment
