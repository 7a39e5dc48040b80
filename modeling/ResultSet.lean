import ResultSet.Application.Codec
import ResultSet.Application.Temporal
import ResultSet.Calendar.Date
import ResultSet.Calendar.DateTime
import ResultSet.Calendar.Literal
import ResultSet.Calendar.Packed
import ResultSet.Column.Definition
import ResultSet.Column.ServerType
import ResultSet.Column.Shape
import ResultSet.Fault
import ResultSet.Field.Character
import ResultSet.Field.Decode
import ResultSet.Field.Literal
import ResultSet.Field.Number
import ResultSet.Field.Reader
import ResultSet.Field.Temporal
import ResultSet.Number.Binary
import ResultSet.Number.Binary.Literal
import ResultSet.Number.Binary.Shortest
import ResultSet.Number.Decimal
import ResultSet.Number.Positional
import ResultSet.Octets
import ResultSet.Packet.Message
import ResultSet.Packet.Read
import ResultSet.Proofs.Application.BothEncodings
import ResultSet.Proofs.Application.CodecAgreement
import ResultSet.Proofs.Application.FailedRead
import ResultSet.Proofs.Application.History
import ResultSet.Proofs.Application.LeapSecond
import ResultSet.Proofs.Application.Literal
import ResultSet.Proofs.Application.Natural
import ResultSet.Proofs.Application.Parameter
import ResultSet.Proofs.Application.Readability
import ResultSet.Proofs.Application.SentYear
import ResultSet.Proofs.Application.ZoneScope
import ResultSet.Proofs.Calendar.DatePart
import ResultSet.Proofs.Calendar.Literal
import ResultSet.Proofs.Calendar.Packed
import ResultSet.Proofs.Calendar.Shift
import ResultSet.Proofs.Calendar.Timeline
import ResultSet.Proofs.Column.Confinement
import ResultSet.Proofs.Column.Cut
import ResultSet.Proofs.Column.ExtendedType
import ResultSet.Proofs.Column.Generated
import ResultSet.Proofs.Column.Interchange
import ResultSet.Proofs.Column.RoundTrip
import ResultSet.Proofs.Column.Spans
import ResultSet.Proofs.Field.Applicability
import ResultSet.Proofs.Field.BitString
import ResultSet.Proofs.Field.Consumption
import ResultSet.Proofs.Field.DateTimeLiteral
import ResultSet.Proofs.Field.DecimalAgreement
import ResultSet.Proofs.Field.Duration
import ResultSet.Proofs.Field.ExactLong
import ResultSet.Proofs.Field.Extent
import ResultSet.Proofs.Field.FailureKinds
import ResultSet.Proofs.Field.Fraction
import ResultSet.Proofs.Field.Framing
import ResultSet.Proofs.Field.Grammar
import ResultSet.Proofs.Field.Interpretation
import ResultSet.Proofs.Field.Narrowing
import ResultSet.Proofs.Field.OmittedGroups
import ResultSet.Proofs.Field.PlainLiteral
import ResultSet.Proofs.Field.Row
import ResultSet.Proofs.Field.ServerMoment
import ResultSet.Proofs.Field.Sign
import ResultSet.Proofs.Field.Temporal
import ResultSet.Proofs.Field.Truncation
import ResultSet.Proofs.Field.Truth
import ResultSet.Proofs.Field.Verdict
import ResultSet.Proofs.Field.WholeNumber
import ResultSet.Proofs.Field.WholePart
import ResultSet.Proofs.Number.Decimal
import ResultSet.Proofs.Number.PlainLiteral
import ResultSet.Proofs.Number.Positional
import ResultSet.Proofs.Number.Rational
import ResultSet.Proofs.Number.Widening
import ResultSet.Proofs.Packet.Advance
import ResultSet.Proofs.Packet.Announcement
import ResultSet.Proofs.Packet.Cut
import ResultSet.Proofs.Packet.Message
import ResultSet.Proofs.Packet.Recovery
import ResultSet.Proofs.Packet.Shortest
import ResultSet.Proofs.Text.Ascii
import ResultSet.Proofs.Text.Literal
import ResultSet.Proofs.Text.Utf8
import ResultSet.Text.Literal
import ResultSet.Text.Utf8
import ResultSet.Value
