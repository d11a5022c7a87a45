import Guardian.Lib.Run
import Guardian.Protocol.Frame

namespace Guardian.Protocol

open Word

inductive ParserState
  | waitMagic0
  | waitMagic1
  | readFrame
  deriving DecidableEq, Repr

/-- `buffer` is the array up to `index`. -/
structure Parser where
  state : ParserState
  buffer : List U8
  expectedSize : Nat
  framesReceived : U32
  crcErrors : U32
  protocolErrors : U32
  oversizeErrors : U32
  lastProtocolResult : ProtocolResult
  deriving DecidableEq, Repr

inductive ParserResult
  | noFrame
  | frameReady (frame : Frame)
  | errorCrc
  | errorProtocol
  | errorOversize
  deriving DecidableEq, Repr

def parserInit : Parser := ⟨.waitMagic0, [], 0, 0, 0, 0, 0, .ok⟩

def parserReturnToSync (parser : Parser) : Parser :=
  { parser with state := .waitMagic0, buffer := [], expectedSize := 0 }

def parserFinish (parser : Parser) : ParserResult × Parser :=
  match protocolDecode (parser.buffer.take parser.expectedSize) with
  | .ok frame =>
    (.frameReady frame,
      { parserReturnToSync parser with lastProtocolResult := .ok, framesReceived := parser.framesReceived + 1 })
  | .error result =>
    let synced : Parser := { parserReturnToSync parser with lastProtocolResult := result }
    if result = .errorCrc then (.errorCrc, { synced with crcErrors := parser.crcErrors + 1 })
    else (.errorProtocol, { synced with protocolErrors := parser.protocolErrors + 1 })

/-- The end of a step that took one more byte of the candidate. -/
def parserContinue (parser : Parser) : ParserResult × Parser :=
  if parser.expectedSize = 0 ∨ parser.buffer.length < parser.expectedSize then (.noFrame, parser)
  else parserFinish parser

def parserPushByte (parser : Parser) (byte : U8) : ParserResult × Parser :=
  match parser.state with
  | .waitMagic0 =>
    if byte = magic0 then (.noFrame, { parser with buffer := [byte], state := .waitMagic1 })
    else (.noFrame, parser)
  | .waitMagic1 =>
    if byte = magic1 then (.noFrame, { parser with buffer := parser.buffer ++ [byte], state := .readFrame })
    else if byte = magic0 then (.noFrame, { parser with buffer := [byte] })
    else (.noFrame, parserReturnToSync parser)
  | .readFrame =>
    if parser.buffer.length ≥ maxFrameSize then
      (.errorOversize, parserReturnToSync { parser with oversizeErrors := parser.oversizeErrors + 1 })
    else
      let buffer := parser.buffer ++ [byte]
      if buffer.length = headerSize then
        let payloadLength := (getU16Be (buffer.drop 10)).toNat
        if payloadLength > maxPayloadSize then
          (.errorOversize, parserReturnToSync { parser with
            buffer, oversizeErrors := parser.oversizeErrors + 1, lastProtocolResult := .errorPayloadTooLarge })
        else parserContinue { parser with buffer, expectedSize := headerSize + payloadLength + crcSize }
      else parserContinue { parser with buffer }

def Parser.after (parser : Parser) (stream : List U8) : Parser :=
  Run.after (fun parser byte => (parserPushByte parser byte).2) stream parser

def ParserResult.frame? : ParserResult → Option Frame
  | .frameReady frame => some frame
  | _ => none

def Parser.delivered (parser : Parser) : List U8 → List Frame
  | [] => []
  | byte :: stream =>
    (parserPushByte parser byte).1.frame?.toList ++ (parserPushByte parser byte).2.delivered stream

theorem Parser.delivered_append (parser : Parser) (left right : List U8) :
    parser.delivered (left ++ right) = parser.delivered left ++ (parser.after left).delivered right := by
  induction left generalizing parser with
  | nil => rfl
  | cons byte left ih =>
    rw [List.cons_append, Parser.delivered, Parser.delivered, ih, List.append_assoc]
    rfl

end Guardian.Protocol
