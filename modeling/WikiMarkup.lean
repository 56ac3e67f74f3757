import WikiMarkup.Service
import WikiMarkup.Markdown.Standard
import WikiMarkup.Proofs.Code.Shield
import WikiMarkup.Proofs.Conversion.Heading
import WikiMarkup.Proofs.Conversion.Link
import WikiMarkup.Proofs.Text.Entity
import WikiMarkup.Proofs.Page.Address
import WikiMarkup.Proofs.Page.Disk
import WikiMarkup.Proofs.Conversion.Resolution
import WikiMarkup.Proofs.Link.Context
import WikiMarkup.Proofs.Conversion.Mark
import WikiMarkup.Proofs.Conversion.LineEnd
import WikiMarkup.Proofs.Code.Block
import WikiMarkup.Proofs.Conversion.Code
import WikiMarkup.Proofs.Conversion.Session
import WikiMarkup.Proofs.Schema.Request
import WikiMarkup.Proofs.Link.Reference
import WikiMarkup.Proofs.Link.Index
import WikiMarkup.Proofs.Conversion.Safety
import WikiMarkup.Proofs.Service.LookUp
import WikiMarkup.Proofs.Code.Fence
import WikiMarkup.Proofs.Code.Listing
import WikiMarkup.Proofs.Link.Special
import WikiMarkup.Proofs.Link.User
import WikiMarkup.Proofs.Text.Tag
import WikiMarkup.Proofs.Conversion.Contents
import WikiMarkup.Proofs.Conversion.Spelling
import WikiMarkup.Proofs.Conversion.Containment
import WikiMarkup.Proofs.Conversion.Nofollow
import WikiMarkup.Proofs.Conversion.Restore
import WikiMarkup.Proofs.Conversion.PlainText
