import NewsApp.Data.Theorems
import NewsApp.Pages.Theorems
import NewsApp.Pages.FeedTheorems
import NewsApp.Pages.LayoutTheorems
import NewsApp.Pages.Reader
import NewsApp.Home.SearchTheorems
import NewsApp.Home.Delivery
import NewsApp.Login.BottomSheetTheorems
import NewsApp.Login.GestureTheorems
import NewsApp.Login.Theorems
import NewsApp.Login.ProtocolTheorems
import NewsApp.Login.AccountTheorems
import NewsApp.Login.PrivacyTheorems
